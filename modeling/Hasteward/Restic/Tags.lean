import Hasteward.Restic.Latest
import Hasteward.Restic.Retention

/-!
# Tags on the archiver's command line, and back

`restic/restic.go` writes a tag map onto the archiver's command line in two ways.
`BuildTagArgs`, for a backup, gives one `--tag k=v` per entry; `BuildTagFilter`, for a query,
gives one `--tag` with all the entries joined by commas, which the archiver reads as "all of
these".  Both iterate a Go map, so in an order nothing fixes: here each takes the order as a
list, and every theorem holds for every order.  `Snapshot.TagMap` reads the tags back, splitting
each at its first `=`.

The archiver splits each `--tag` value at its commas, and stores the pieces when writing; when
reading, a `--tag a,b` selects the snapshots that carry all of `a` and `b` (`tagArgs`,
`writtenTags`, `selects`).

* `selects_buildTagFilter`: on tag maps whose keys are non-empty with no `=` or `,` and whose
  values have no `,` (`TagsOK`), the encoded filter selects the encoded tags exactly when the
  snapshot carries every pair of the filter, which is `Stored.matches`, the reading
  `Hasteward.Restic.Latest` takes of a query.
* `tags_roundTrip`: `BackupDump` sets the extra tags `E` over the base tags `T`: `engine`,
  `cluster`, `namespace` and `type` (its `backupType`), with `job` the only extra tag a caller
  passes.  For every iteration order, `TagMap` of the tags written by `BuildTagArgs` is `E` over
  `T`, and the snapshot is selected by `BuildTagFilter(T)` exactly when `E` agrees with `T` on the
  keys they share, so always for the tags the callers pass.
-/

set_option autoImplicit false

namespace Hasteward
namespace Restic

open Go

/-! ## The code -/

/-- `k + "=" + v`. -/
def tagString (kv : String × String) : String := kv.1 ++ "=" ++ kv.2

/-- `BuildTagArgs(tags)`, the map iterated in the order `order`: one `--tag k=v` per entry. -/
def buildTagArgs (order : List (String × String)) : List String :=
  order.flatMap fun kv => ["--tag", tagString kv]

/-- `BuildTagFilter(tags)`, the map iterated in the order `order`: nothing for the empty map,
otherwise one `--tag` with the entries joined by commas. -/
def buildTagFilter (order : List (String × String)) : List String :=
  if order = [] then [] else ["--tag", ",".intercalate (order.map tagString)]

/-- `s.TagMap()`, read at `key`: each tag with an `=` after its first character sets the text
before its first `=` to the text after it, a later tag over an earlier one. -/
def tagMap (tags : List String) (key : String) : Option String :=
  tags.foldl (fun m t => match splitTag t with
    | some (k, v) => if k = key then some v else m
    | none => m) none

/-- `TagMap()[key]`, with Go's `""` for a missing key, is `Snapshot.tag`. -/
theorem Snapshot.tag_eq_tagMap (s : Snapshot) (key : String) :
    s.tag key = (tagMap s.tags key).getD "" :=
  List.foldl_hom (fun o : Option String => o.getD "") _ _ s.tags none fun o t => by
    cases splitTag t with
    | none => rfl
    | some kv => dsimp only; split_ifs <;> rfl

/-! ## The archiver -/

/-- The values of the `--tag` flags of an archiver command line, each split at its commas: the
tags a backup stores, or the groups of a query, one per flag. -/
def tagArgs : List String → List (List String)
  | "--tag" :: v :: rest => v.splitOn "," :: tagArgs rest
  | _ :: rest => tagArgs rest
  | [] => []

/-- The tags of a snapshot written with the arguments `args`. -/
def writtenTags (args : List String) : List String := (tagArgs args).flatten

/-- Whether a query with the arguments `args` selects a snapshot with the tags `tags`: each
`--tag a,b` asks for all of its pieces, a snapshot is selected by any `--tag`, and a query with
none selects every snapshot. -/
def selects (args : List String) (tags : List String) : Bool :=
  match tagArgs args with
  | [] => true
  | gs => gs.any fun g => g.all (· ∈ tags)

/-! ## Tags that survive the encoding -/

/-- A tag map the encoding keeps apart: a Go map, so distinct keys, with keys non-empty and free
of `=` and `,`, and values free of `,`. -/
def TagsOK (l : List (String × String)) : Prop :=
  (l.map Prod.fst).Nodup ∧
    ∀ kv ∈ l, kv.1 ≠ "" ∧ '=' ∉ kv.1.data ∧ ',' ∉ kv.1.data ∧ ',' ∉ kv.2.data

instance : DecidablePred TagsOK := fun _ => inferInstanceAs (Decidable (_ ∧ _))

theorem TagsOK.perm {l l' : List (String × String)} (h : TagsOK l) (hp : l'.Perm l) : TagsOK l' :=
  ⟨(hp.map Prod.fst).nodup_iff.2 h.1, fun kv hkv => h.2 kv (hp.mem_iff.1 hkv)⟩

theorem TagsOK.commaFree {l : List (String × String)} (h : TagsOK l) :
    ∀ kv ∈ l, ',' ∉ kv.1.data ∧ ',' ∉ kv.2.data :=
  fun kv hkv => (h.2 kv hkv).2.2

theorem tagString_data (kv : String × String) :
    (tagString kv).data = kv.1.data ++ '=' :: kv.2.data := by
  simp [tagString]

theorem comma_not_mem_tagString {kv : String × String} (h₁ : ',' ∉ kv.1.data)
    (h₂ : ',' ∉ kv.2.data) : ',' ∉ (tagString kv).data := by
  simp [tagString_data, h₁, h₂]

/-- `TagMap` splits `k=v` back into `k` and `v`. -/
theorem splitTag_tagString {kv : String × String} (hk : kv.1 ≠ "") (he : '=' ∉ kv.1.data) :
    splitTag (tagString kv) = some kv := by
  obtain ⟨⟨k⟩, ⟨v⟩⟩ := kv
  have hspan : (k ++ '=' :: v).span (· != '=') = (k, '=' :: v) := by
    rw [List.span_eq_take_drop, List.takeWhile_append_of_pos, List.dropWhile_append_of_pos]
    · simp
    all_goals exact fun c hc => by simpa using ne_of_mem_of_not_mem hc he
  cases k with
  | nil => exact absurd rfl hk
  | cons c cs => simp only [splitTag, tagString_data, hspan]

theorem tagString_inj {a b : String × String} (ha : a.1 ≠ "" ∧ '=' ∉ a.1.data)
    (hb : b.1 ≠ "" ∧ '=' ∉ b.1.data) (h : tagString a = tagString b) : a = b :=
  Option.some.inj ((splitTag_tagString ha.1 ha.2).symm.trans (h ▸ splitTag_tagString hb.1 hb.2))

/-- Text with no comma is not split. -/
theorem splitOn_comma (l : List String) (hl : ∀ s ∈ l, ',' ∉ s.data) (hne : l ≠ []) :
    (",".intercalate l).splitOn "," = l := by
  rw [show "," = (⟨[',']⟩ : String) from rfl, splitOn_single, intercalate_data,
    List.splitOn_intercalate _ ',' (by simpa using hl) (by simpa using hne), List.map_map]
  exact List.map_id l

theorem tagArgs_buildTagArgs (ml : List (String × String)) :
    tagArgs (buildTagArgs ml) = ml.map fun kv => (tagString kv).splitOn "," := by
  induction ml with
  | nil => rfl
  | cons kv ml ih =>
    show tagArgs ("--tag" :: tagString kv :: buildTagArgs ml) = _
    rw [tagArgs, ih, List.map_cons]

/-- The tags a backup stores: one per entry, whatever the order. -/
theorem writtenTags_buildTagArgs {ml : List (String × String)}
    (h : ∀ kv ∈ ml, ',' ∉ kv.1.data ∧ ',' ∉ kv.2.data) :
    writtenTags (buildTagArgs ml) = ml.map tagString := by
  rw [writtenTags, tagArgs_buildTagArgs]
  induction ml with
  | nil => rfl
  | cons kv ml ih =>
    obtain ⟨h₁, h₂⟩ := h kv (List.mem_cons_self _ _)
    have hs : (tagString kv).splitOn "," = [tagString kv] :=
      splitOn_comma [tagString kv] (by simpa using comma_not_mem_tagString h₁ h₂) (by simp)
    rw [List.map_cons, List.flatten_cons, hs, ih fun kv' h' => h kv' (List.mem_cons_of_mem _ h'),
      List.map_cons, List.singleton_append]

/-- The groups of a query: none for the empty map, otherwise the one group of all its tags. -/
theorem tagArgs_buildTagFilter {fl : List (String × String)}
    (h : ∀ kv ∈ fl, ',' ∉ kv.1.data ∧ ',' ∉ kv.2.data) :
    tagArgs (buildTagFilter fl) = if fl = [] then [] else [fl.map tagString] := by
  unfold buildTagFilter
  split_ifs with h0
  · rfl
  · have hl : ∀ s ∈ fl.map tagString, ',' ∉ s.data := by
      intro s hs
      obtain ⟨kv, hkv, rfl⟩ := List.mem_map.1 hs
      exact comma_not_mem_tagString (h kv hkv).1 (h kv hkv).2
    rw [tagArgs, splitOn_comma _ hl (by simpa using h0)]
    rfl

/-! ## Map lookups -/

theorem lookup_cons_ne {k a b : String} {l : List (String × String)} (h : k ≠ a) :
    ((a, b) :: l).lookup k = l.lookup k := by
  rw [List.lookup_cons, beq_false_of_ne h]

theorem lookup_eq_none_of_not_mem {l : List (String × String)} {k : String}
    (h : k ∉ l.map Prod.fst) : l.lookup k = none :=
  List.lookup_eq_none_iff.2 fun p hp => bne_iff_ne.2 fun he => h (List.mem_map.2 ⟨p, hp, he.symm⟩)

/-- In a map, an entry is what its key looks up. -/
theorem mem_iff_lookup {l : List (String × String)} (hl : (l.map Prod.fst).Nodup)
    {k v : String} : (k, v) ∈ l ↔ l.lookup k = some v := by
  induction l with
  | nil => simp
  | cons kv l ih =>
    obtain ⟨a, b⟩ := kv
    rw [List.map_cons, List.nodup_cons] at hl
    rw [List.mem_cons, ih hl.2]
    by_cases hk : k = a
    · subst hk
      rw [List.lookup_cons_self, lookup_eq_none_of_not_mem hl.1]
      simp only [Prod.mk.injEq, true_and, Option.some.injEq, reduceCtorEq, or_false]
      exact eq_comm
    · rw [lookup_cons_ne hk]
      simp [hk]

theorem lookup_perm {l l' : List (String × String)} (hl : (l.map Prod.fst).Nodup) (hp : l'.Perm l)
    (k : String) : l'.lookup k = l.lookup k :=
  Option.ext fun v => by
    rw [Option.mem_def, Option.mem_def, ← mem_iff_lookup ((hp.map Prod.fst).nodup_iff.2 hl),
      ← mem_iff_lookup hl, hp.mem_iff]

theorem lookup_filter_key (l : List (String × String)) (key k : String) :
    (l.filter (·.1 != key)).lookup k = if k = key then none else l.lookup k := by
  induction l with
  | nil => simp
  | cons p l ih =>
    obtain ⟨a, b⟩ := p
    rw [List.filter_cons]
    by_cases hp : a = key
    · -- an entry of the key: filtered out
      rw [if_neg (by simp [hp]), ih]
      by_cases hk : k = key
      · rw [if_pos hk, if_pos hk]
      · rw [if_neg hk, if_neg hk, lookup_cons_ne fun h => hk (h.trans hp)]
    · rw [if_pos (by simpa using hp)]
      by_cases hk : k = a
      · subst hk
        rw [List.lookup_cons_self, if_neg hp, List.lookup_cons_self]
      · rw [lookup_cons_ne hk, ih, lookup_cons_ne hk]

/-- `tags[k] = v`. -/
theorem lookup_insertTag (l : List (String × String)) (kv : String × String) (k : String) :
    (insertTag l kv).lookup k = if k = kv.1 then some kv.2 else l.lookup k := by
  obtain ⟨a, b⟩ := kv
  rw [insertTag, List.lookup_append, lookup_filter_key]
  by_cases hk : k = a
  · subst hk
    rw [if_pos rfl, if_pos rfl, List.lookup_cons_self]
    rfl
  · rw [if_neg hk, if_neg hk, lookup_cons_ne hk, List.lookup_nil, Option.or_none]

theorem TagsOK.insertTag {l : List (String × String)} (hl : TagsOK l) {kv : String × String}
    (hkv : kv.1 ≠ "" ∧ '=' ∉ kv.1.data ∧ ',' ∉ kv.1.data ∧ ',' ∉ kv.2.data) :
    TagsOK (Hasteward.insertTag l kv) := by
  refine ⟨?_, fun p hp => ?_⟩
  · rw [Hasteward.insertTag, List.map_append, List.nodup_append]
    refine ⟨List.Nodup.sublist ((List.filter_sublist l).map Prod.fst) hl.1, List.nodup_singleton _,
      List.disjoint_singleton.2 ?_⟩
    simp [List.mem_filter]
  · rcases List.mem_append.1 hp with hp | hp
    · exact hl.2 p (List.mem_filter.1 hp).1
    · rwa [List.mem_singleton.1 hp]

theorem TagsOK.tail {kv : String × String} {l : List (String × String)} (h : TagsOK (kv :: l)) :
    TagsOK l :=
  ⟨(List.nodup_cons.1 h.1).2, fun p hp => h.2 p (List.mem_cons_of_mem _ hp)⟩

/-- **The merge of `BackupDump`.**  `for k, v := range extra { tags[k] = v }`: the extra tags
over the base ones. -/
theorem lookup_foldl_insertTag {el : List (String × String)} (he : TagsOK el) :
    ∀ (tl : List (String × String)), TagsOK tl →
      TagsOK (el.foldl Hasteward.insertTag tl) ∧
        ∀ k, (el.foldl Hasteward.insertTag tl).lookup k = (el.lookup k).or (tl.lookup k) := by
  induction el with
  | nil => intro tl ht; exact ⟨ht, fun k => rfl⟩
  | cons kv el ih =>
    intro tl ht
    obtain ⟨hok, hlk⟩ := ih he.tail _ (ht.insertTag (he.2 kv (List.mem_cons_self _ _)))
    refine ⟨hok, fun k => ?_⟩
    obtain ⟨a, b⟩ := kv
    rw [List.foldl_cons, hlk, lookup_insertTag]
    by_cases hk : k = a
    · subst hk
      rw [if_pos rfl, lookup_eq_none_of_not_mem (List.nodup_cons.1 he.1).1, List.lookup_cons_self]
      rfl
    · rw [if_neg hk, lookup_cons_ne hk]

/-! ## The round trip -/

/-- `TagMap` reads the tags a backup stores back as the map, in every order. -/
theorem tagMap_map_tagString {ml : List (String × String)} (hml : TagsOK ml) (key : String) :
    tagMap (ml.map tagString) key = ml.lookup key := by
  have h : ∀ (l : List (String × String)), TagsOK l → ∀ o : Option String,
      (l.map tagString).foldl (fun m t => match splitTag t with
        | some (k, v) => if k = key then some v else m
        | none => m) o = (l.lookup key).or o := by
    intro l
    induction l with
    | nil => intro _ o; rfl
    | cons kv l ih =>
      intro hl o
      obtain ⟨hk, he, -, -⟩ := hl.2 kv (List.mem_cons_self _ _)
      rw [List.map_cons, List.foldl_cons, splitTag_tagString hk he, ih hl.tail]
      obtain ⟨a, b⟩ := kv
      dsimp only
      by_cases hka : a = key
      · subst hka
        rw [if_pos rfl, lookup_eq_none_of_not_mem (List.nodup_cons.1 hl.1).1, List.lookup_cons_self]
        rfl
      · rw [if_neg hka, lookup_cons_ne (Ne.symm hka)]
  exact (h ml hml none).trans Option.or_none

/-- **The query of a tag map, against the tags of a backup.**  For every order of either map, the
encoded filter selects the encoded tags exactly when the snapshot carries every pair of the
filter: `Stored.matches`, which is how `Hasteward.Restic.Latest` reads a query. -/
theorem selects_buildTagFilter {ml fl : List (String × String)} (hml : TagsOK ml) (hfl : TagsOK fl)
    (path : String) (time : Time) :
    selects (buildTagFilter fl) (writtenTags (buildTagArgs ml)) = (Stored.mk ml path time).matches fl := by
  rw [writtenTags_buildTagArgs hml.commaFree, selects, tagArgs_buildTagFilter hfl.commaFree]
  split_ifs with h0
  · simp [h0, Stored.matches]
  · simp only [List.any_cons, List.any_nil, Bool.or_false, Stored.matches]
    refine Bool.eq_iff_iff.2 ?_
    simp only [List.all_eq_true, List.mem_map, decide_eq_true_eq]
    constructor
    · intro h kv hkv
      obtain ⟨kv', hkv', he⟩ := h _ ⟨kv, hkv, rfl⟩
      exact tagString_inj ⟨(hml.2 kv' hkv').1, (hml.2 kv' hkv').2.1⟩
        ⟨(hfl.2 kv hkv).1, (hfl.2 kv hkv).2.1⟩ he ▸ hkv'
    · rintro h _ ⟨kv, hkv, rfl⟩
      exact ⟨kv, h kv hkv, rfl⟩

/-- **The tag round trip.**  `BackupDump` sets the extra tags `el` over the base tags `tl`
(`Call.stored`); `BuildTagArgs` writes the result in an order `ml`, and `BuildTagFilter(tl)`
iterates `tl` in an order `fl`.  For every such order, `TagMap` of the stored tags is the extra
tags over the base ones, and the snapshot is selected by the base filter exactly when the extra
tags agree with the base ones on every key they share. -/
theorem tags_roundTrip (tl el ml fl : List (String × String)) (hT : TagsOK tl) (hE : TagsOK el)
    (hml : ml.Perm (el.foldl Hasteward.insertTag tl)) (hfl : fl.Perm tl) :
    tagMap (writtenTags (buildTagArgs ml)) = (fun key => (el.lookup key).or (tl.lookup key)) ∧
      (selects (buildTagFilter fl) (writtenTags (buildTagArgs ml)) = true ↔
        ∀ kv ∈ tl, el.lookup kv.1 = none ∨ el.lookup kv.1 = some kv.2) := by
  obtain ⟨hM, hlk⟩ := lookup_foldl_insertTag hE tl hT
  have hm : TagsOK ml := hM.perm hml
  refine ⟨funext fun key => by
    rw [writtenTags_buildTagArgs hm.commaFree, tagMap_map_tagString hm, lookup_perm hM.1 hml, hlk],
    ?_⟩
  rw [selects_buildTagFilter hm (hT.perm hfl) "" ⟨0⟩, Stored.matches, List.all_eq_true]
  simp only [decide_eq_true_eq]
  have hkey : ∀ kv ∈ tl, (kv ∈ ml ↔ el.lookup kv.1 = none ∨ el.lookup kv.1 = some kv.2) := by
    intro kv hkv
    have ht : tl.lookup kv.1 = some kv.2 := (mem_iff_lookup hT.1).1 hkv
    calc kv ∈ ml ↔ kv ∈ el.foldl Hasteward.insertTag tl := hml.mem_iff
      _ ↔ (el.foldl Hasteward.insertTag tl).lookup kv.1 = some kv.2 := mem_iff_lookup hM.1
      _ ↔ (el.lookup kv.1).or (some kv.2) = some kv.2 := by rw [hlk, ht]
      _ ↔ _ := by cases el.lookup kv.1 <;> simp
  exact ⟨fun h kv hkv => (hkey kv hkv).1 (h kv (hfl.mem_iff.2 hkv)),
    fun h kv hkv => (hkey kv (hfl.mem_iff.1 hkv)).2 (h kv (hfl.mem_iff.1 hkv))⟩

/-- The base tags `BackupDump` sets for a backup of the Galera cluster `g` in `db`. -/
def galeraBaseTags : List (String × String) :=
  [("engine", "galera"), ("cluster", "g"), ("namespace", "db"), ("type", "backup")]

/-- A `job` tag over the base tags: `TagMap` recovers the job, and the base filter selects the
snapshot. -/
theorem tags_roundTrip_jobTag :
    TagsOK galeraBaseTags ∧ TagsOK [("job", "20240701T120000Z")] ∧
      tagMap (writtenTags (buildTagArgs
        ([("job", "20240701T120000Z")].foldl Hasteward.insertTag galeraBaseTags))) "job" =
          some "20240701T120000Z" ∧
      selects (buildTagFilter galeraBaseTags) (writtenTags (buildTagArgs
        ([("job", "20240701T120000Z")].foldl Hasteward.insertTag galeraBaseTags))) = true := by
  have h := tags_roundTrip galeraBaseTags [("job", "20240701T120000Z")] _ galeraBaseTags
    (by decide) (by decide) (List.Perm.refl _) (List.Perm.refl _)
  exact ⟨by decide, by decide, by rw [h.1]; rfl, h.2.2 (by decide)⟩

end Restic
end Hasteward
