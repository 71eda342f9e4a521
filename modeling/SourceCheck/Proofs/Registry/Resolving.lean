import SourceCheck.Proofs.Registry.Registering

/-!
# The language of a file

The index is tried from the front, and it is sorted by length alone.  Two suffixes of one name that
are equally long are equal, so the first hit is the longest one, whatever order the suffixes were
registered in.  The suffixes are in lower case, and lower-casing a name leaves its end in lower case
alone; so a name that is written with a suffix ends in it after lower-casing, too.

* `Longest`: the longest suffix of a registry that a name ends in.
* `resolve_eq_some_iff`, `resolve_eq_none_iff`: what a file resolves to.
* `name_ofString_append`: the name of a file whose text ends in a suffix.
* `resolve_longest`: all of it, together with what follows for the text, the letter case and the
  order of registration.
-/

namespace SourceCheck

/-! ## 1. The last field of a text -/

/-- What stands behind the last separator is added to the last field. -/
theorem Text.fields_append {separator : Char} {u : List Char} (h : separator ∉ u)
    (s : List Char) : ∃ before last, Text.fields separator s = before ++ [last] ∧
      Text.fields separator (s ++ u) = before ++ [last ++ u] := by
  induction s with
  | nil => exact ⟨[], [], rfl, Text.fields_of_not_mem h⟩
  | cons c cs ih =>
    obtain ⟨before, last, hs, hsu⟩ := ih
    rw [List.cons_append, Text.fields, Text.fields, hs, hsu]
    split
    · exact ⟨[] :: before, last, rfl, rfl⟩
    · cases before with
      | nil => exact ⟨[], c :: last, rfl, rfl⟩
      | cons f fs => exact ⟨(c :: f) :: fs, last, rfl, rfl⟩

/-- A field of two characters or more is a part of the path. -/
theorem Path.isPart_ofList {s : List Char} (h : 2 ≤ s.length) : isPart (String.ofList s) = true := by
  have hne : ∀ t : String, t.toList.length < 2 → String.ofList s ≠ t := by
    rintro t hshort rfl
    rw [String.toList_ofList] at hshort
    omega
  rw [isPart, Bool.and_eq_true, bne_iff_ne, bne_iff_ne]
  exact ⟨hne "" (by decide), hne "." (by decide)⟩

/-- **The name of a file whose text ends in a suffix** without a slash: the suffix stands at the end
of the name, and before it what stands behind the last slash of the rest. -/
theorem Path.name_ofString_append {stem suffix : String} (hslash : '/' ∉ suffix.toList)
    (hsuffix : suffix.toList ≠ []) (hstem : (slashFields stem).getLast? ≠ some "") :
    ∃ last, last ≠ [] ∧ (Path.ofString (stem ++ suffix)).name.toList = last ++ suffix.toList := by
  obtain ⟨before, last, hfields, happend⟩ := Text.fields_append hslash stem.toList
  have hlast : last ≠ [] := by
    rintro rfl
    apply hstem
    rw [slashFields, hfields, List.map_append, List.getLast?_append]
    rfl
  have hlong : 2 ≤ (last ++ suffix.toList).length := by
    have hl := List.length_pos_iff.mpr hlast
    have hs := List.length_pos_iff.mpr hsuffix
    rw [List.length_append]
    omega
  have hpart := isPart_ofList hlong
  refine ⟨last, hlast, ?_⟩
  rw [name, ofString, slashFields, String.toList_append, happend, List.map_append,
    List.filter_append, List.map_singleton, List.filter_cons_of_pos hpart, List.filter_nil,
    List.getLast?_concat, Option.getD_some, String.toList_ofList]

namespace Registry

variable {cs : List Registration} {r : Registry} {file : Path} {l : Language} {name suffix : String}

/-! ## 2. The longest suffix -/

/-- **The longest suffix of a registry that a name ends in.** -/
structure Longest (r : Registry) (name suffix : String) : Prop where
  registered : suffix ∈ Table.keys r.owners
  ends : EndsIn name suffix
  longest : ∀ other ∈ Table.keys r.owners, EndsIn name other → other ≠ suffix →
    other.length < suffix.length

theorem Longest.unique {other : String} (h : Longest r name suffix) (h' : Longest r name other) :
    other = suffix := by
  by_contra hne
  have hlt := h.longest other h'.registered h'.ends hne
  have hgt := h'.longest suffix h.registered h.ends (Ne.symm hne)
  omega

/-- **The first suffix of the index that a name ends in** is the longest one. -/
theorem WellKept.longest_of_find? (h : r.WellKept cs)
    (hfind : r.index.find? (hasSuffix name) = some suffix) : Longest r name suffix := by
  obtain ⟨hends, before, behind, hindex, hbefore⟩ := List.find?_eq_some_iff_append.mp hfind
  have hmem : suffix ∈ r.index := List.mem_of_find?_eq_some hfind
  refine ⟨h.index_perm.mem_iff.mp hmem, hasSuffix_iff.mp hends, ?_⟩
  intro other hother hends' hne
  have hsorted := h.index_sorted
  rw [hindex, List.pairwise_append] at hsorted
  have hle : other.length ≤ suffix.length := by
    have hin : other ∈ before ++ suffix :: behind := hindex ▸ h.index_perm.mem_iff.mpr hother
    rcases List.mem_append.mp hin with hin | hin
    · have hmiss := hbefore other hin
      rw [hasSuffix_iff.mpr hends'] at hmiss
      cases hmiss
    · rcases List.mem_cons.mp hin with rfl | hin
      · exact Nat.le_refl _
      · exact List.rel_of_pairwise_cons hsorted.2.1 hin
  refine Nat.lt_of_le_of_ne hle fun hlength => hne ?_
  exact hends'.eq_of_length (hasSuffix_iff.mp hends) hlength

theorem WellKept.find?_eq_some_iff (h : r.WellKept cs) :
    r.index.find? (hasSuffix name) = some suffix ↔ Longest r name suffix := by
  refine ⟨h.longest_of_find?, fun hlongest => ?_⟩
  cases hfind : r.index.find? (hasSuffix name) with
  | some other => rw [(hlongest.unique (h.longest_of_find? hfind))]
  | none =>
    have hnone := List.find?_eq_none.mp hfind suffix (h.index_perm.mem_iff.mpr hlongest.registered)
    exact absurd (hasSuffix_iff.mpr hlongest.ends) hnone

/-! ## 3. What a file resolves to -/

/-- **A file resolves to the owner of the longest suffix** that its name, in lower case, ends in. -/
theorem WellKept.resolve_eq_some_iff (h : r.WellKept cs) :
    r.resolve file = some l ↔ ∃ suffix, Longest r (Text.lowered file.name) suffix ∧
      Table.get? r.owners suffix = some l := by
  rw [resolve, Option.bind_eq_some_iff]
  simp only [h.find?_eq_some_iff]

/-- **A file resolves to nothing** if its name, in lower case, ends in no suffix. -/
theorem WellKept.resolve_eq_none_iff (h : r.WellKept cs) :
    r.resolve file = none ↔
      ∀ suffix ∈ Table.keys r.owners, ¬ EndsIn (Text.lowered file.name) suffix := by
  have hmem : ∀ suffix, suffix ∈ r.index ↔ suffix ∈ Table.keys r.owners :=
    fun suffix => h.index_perm.mem_iff
  rw [resolve]
  constructor
  · intro hnone suffix hkey hends
    cases hfind : r.index.find? (hasSuffix (Text.lowered file.name)) with
    | some other =>
      rw [hfind, Option.bind_some] at hnone
      have hother := (hmem other).mp (List.mem_of_find?_eq_some hfind)
      rw [← Table.get?_isSome_iff, hnone] at hother
      cases hother
    | none =>
      exact List.find?_eq_none.mp hfind suffix ((hmem suffix).mpr hkey) (hasSuffix_iff.mpr hends)
  · intro hno
    have hfind : r.index.find? (hasSuffix (Text.lowered file.name)) = none := by
      refine List.find?_eq_none.mpr fun suffix hkey hends => ?_
      exact hno suffix ((hmem suffix).mp hkey) (hasSuffix_iff.mp hends)
    rw [hfind, Option.bind_none]

/-- A name that is written with a suffix in its kept form ends in it, also in lower case. -/
theorem EndsIn.lowered (h : EndsIn name suffix) (hkept : Kept suffix) :
    EndsIn (Text.lowered name) suffix := by
  obtain ⟨stem, hne, hname⟩ := h
  obtain ⟨stem', hlower, hne'⟩ := Text.lower_append_of_small stem hkept.small
  refine ⟨stem', hne' hne, ?_⟩
  rw [Text.lowered, String.toList_ofList, hname, hlower]

/-- **A file whose text ends in a suffix** of the registry has a language, and it is the owner of
that suffix unless a longer one fits as well. -/
theorem WellKept.resolve_append (h : r.WellKept cs) {stem : String}
    (hkey : suffix ∈ Table.keys r.owners) (hslash : '/' ∉ suffix.toList)
    (hstem : (slashFields stem).getLast? ≠ some "") :
    ∃ l, r.resolve (.ofString (stem ++ suffix)) = some l ∧
      (Table.get? r.owners suffix = some l ∨ ∃ other ∈ Table.keys r.owners,
        EndsIn (Text.lowered (Path.ofString (stem ++ suffix)).name) other ∧
          suffix.length < other.length) := by
  have hkept := h.kept hkey
  have hne : suffix.toList ≠ [] := by
    intro he
    have hdot := hkept.starts
    rw [he] at hdot
    cases hdot
  have hends : EndsIn (Text.lowered (Path.ofString (stem ++ suffix)).name) suffix := by
    obtain ⟨last, hlast, hname⟩ := Path.name_ofString_append hslash hne hstem
    exact EndsIn.lowered ⟨last, hlast, hname⟩ hkept
  cases hresolve : r.resolve (.ofString (stem ++ suffix)) with
  | none => exact absurd hends (h.resolve_eq_none_iff.mp hresolve suffix hkey)
  | some l =>
    refine ⟨l, rfl, ?_⟩
    obtain ⟨longest, hlongest, howner⟩ := h.resolve_eq_some_iff.mp hresolve
    by_cases hsame : suffix = longest
    · exact .inl (hsame ▸ howner)
    · exact .inr ⟨longest, hlongest.registered, hlongest.ends,
        hlongest.longest suffix hkey hends hsame⟩

/-- Registries with the same owners know the same longest suffixes. -/
theorem Longest.of_owners {r' : Registry}
    (howners : ∀ suffix, Table.get? r.owners suffix = Table.get? r'.owners suffix)
    (h : Longest r name suffix) : Longest r' name suffix := by
  have hkeys : ∀ key, key ∈ Table.keys r'.owners ↔ key ∈ Table.keys r.owners := by
    intro key
    rw [← Table.get?_isSome_iff, ← Table.get?_isSome_iff, howners]
  refine ⟨(hkeys suffix).mpr h.registered, h.ends, fun other hother => ?_⟩
  exact h.longest other ((hkeys other).mp hother)

/-- **Registries with the same owners** resolve files in the same way. -/
theorem WellKept.resolve_eq_of_owners {cs' : List Registration} {r' : Registry} (h : r.WellKept cs)
    (h' : r'.WellKept cs')
    (howners : ∀ suffix, Table.get? r.owners suffix = Table.get? r'.owners suffix) :
    r.resolve file = r'.resolve file := by
  refine Option.ext fun l => ?_
  rw [h.resolve_eq_some_iff, h'.resolve_eq_some_iff]
  constructor
  · rintro ⟨suffix, hlongest, howner⟩
    exact ⟨suffix, hlongest.of_owners howners, howners suffix ▸ howner⟩
  · rintro ⟨suffix, hlongest, howner⟩
    have howners' := fun suffix => (howners suffix).symm
    exact ⟨suffix, hlongest.of_owners howners', howners' suffix ▸ howner⟩

/-- **How every registry resolves files**, whatever calls it was made by.  The owner of the longest
suffix is found, and nothing exactly if there is no suffix; a text that ends in a suffix has a
language; the letter case of ASCII letters in the name does not matter, nor does the order in which
the same owners came about. -/
theorem resolve_longest (cs : List Registration) :
    (∀ file l, (ofRegistrations cs).resolve file = some l ↔
      ∃ suffix, Longest (ofRegistrations cs) (Text.lowered file.name) suffix ∧
        Table.get? (ofRegistrations cs).owners suffix = some l) ∧
    (∀ file, (ofRegistrations cs).resolve file = none ↔
      ∀ suffix ∈ Table.keys (ofRegistrations cs).owners,
        ¬ EndsIn (Text.lowered file.name) suffix) ∧
    (∀ stem, ∀ suffix ∈ Table.keys (ofRegistrations cs).owners, '/' ∉ suffix.toList →
      (slashFields stem).getLast? ≠ some "" →
      ∃ l, (ofRegistrations cs).resolve (.ofString (stem ++ suffix)) = some l ∧
        (Table.get? (ofRegistrations cs).owners suffix = some l ∨
          ∃ other ∈ Table.keys (ofRegistrations cs).owners,
            EndsIn (Text.lowered (Path.ofString (stem ++ suffix)).name) other ∧
              suffix.length < other.length)) ∧
    (∀ file file' : Path,
      file.name.toList.map Char.toLower = file'.name.toList.map Char.toLower →
      (ofRegistrations cs).resolve file = (ofRegistrations cs).resolve file') ∧
    ∀ cs', (∀ suffix, Table.get? (ofRegistrations cs).owners suffix =
        Table.get? (ofRegistrations cs').owners suffix) →
      ∀ file, (ofRegistrations cs).resolve file = (ofRegistrations cs').resolve file := by
  have h := wellKept_ofRegistrations cs
  refine ⟨fun _ _ => h.resolve_eq_some_iff, fun _ => h.resolve_eq_none_iff,
    fun _ _ hkey hslash hstem => h.resolve_append hkey hslash hstem, ?_, ?_⟩
  · intro file file' hcase
    have hlower : Text.lowered file.name = Text.lowered file'.name :=
      congrArg String.ofList (Text.lower_of_ascii_case hcase)
    rw [resolve, resolve, hlower]
  · exact fun cs' howners _ => h.resolve_eq_of_owners (wellKept_ofRegistrations cs') howners

end Registry

end SourceCheck
