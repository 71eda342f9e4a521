import SourceCheck.Builtin.Language
import SourceCheck.Proofs.Registry.Resolving

/-!
# What the suffix of a name decides

The registry looks at the end of a whole name in lower case, and the last dot of the name is not
mentioned in that.  If all suffixes are ASCII texts behind one dot, then it comes down to the suffix
of the name: its lower case is one of them, or the name ends in none.  So files whose suffixes
differ in letter case only are of one language.

* `Path.suffix_of_name`: where a suffix starts.
* `PlainSuffix`: ASCII texts behind one dot.
* `endsIn_lowered_iff`: the suffix that a name ends in.
* `WellKept.resolve_eq_get?`: the suffix in lower case decides the language.
* `Builtin.resolve_of_suffix`, `Builtin.suffix_of_resolve`: the languages that come along.
-/

namespace SourceCheck

/-! ## 1. Lower case around a dot -/

namespace Text

variable {before before' s u : List Char}

set_option maxRecDepth 2000 in
/-- No capital becomes a dot, or anything in front of it. -/
theorem capitalRuns_beyond : ∀ r ∈ capitalRuns, 46 < (r.first : Int) + r.shift := by decide

theorem lowerChar_ne_dot {c : Char} (h : c ≠ '.') : lowerChar c ≠ '.' := by
  rcases lowerChar_cases c with ⟨r, hr, hcovers, hmove⟩ | ⟨-, hstays⟩
  · intro hdot
    have hfar := capitalRuns_beyond r hr
    obtain ⟨hfirst, -, -⟩ := CaseRun.covers_iff.mp hcovers
    rw [hdot] at hmove
    change 46 = r.move c.toNat at hmove
    rw [CaseRun.move] at hmove
    omega
  · rwa [hstays]

/-- **Lower-casing makes no dot.** -/
theorem dot_notMem_lowerAfter (h : '.' ∉ s) (before : List Char) : '.' ∉ lowerAfter before s := by
  induction s generalizing before with
  | nil => exact List.not_mem_nil
  | cons c cs ih =>
    rw [List.mem_cons, not_or] at h
    have hrest := ih h.2 (c :: before)
    rw [lowerAfter]
    split
    · split <;> simpa using hrest
    · split
      · simpa using hrest
      · rw [List.mem_cons, not_or]
        exact ⟨(lowerChar_ne_dot (Ne.symm h.1)).symm, hrest⟩

/-- **What becomes an ASCII text becomes that wherever it stands**: there is no sigma in it. -/
theorem lowerAfter_of_ascii (h : ∀ c ∈ lowerAfter before s, c.toNat < 128) (before' : List Char) :
    lowerAfter before' s = lowerAfter before s := by
  induction s generalizing before before' with
  | nil => rfl
  | cons c cs ih =>
    rw [lowerAfter] at h
    rw [lowerAfter, lowerAfter]
    by_cases hsigma : (c == capitalSigma) = true
    · rw [if_pos hsigma] at h
      have hhead := h _ List.mem_cons_self
      split at hhead
      · exact absurd hhead (by decide)
      · exact absurd hhead (by decide)
    · rw [if_neg hsigma] at h
      rw [if_neg hsigma, if_neg hsigma]
      split
      · rename_i hdotted
        rw [if_pos hdotted] at h
        exact absurd (h '\u0307' (List.mem_cons_of_mem _ List.mem_cons_self)) (by decide)
      · rename_i hdotted
        rw [if_neg hdotted] at h
        rw [ih fun d hd => h d (List.mem_cons_of_mem _ hd)]

/-- A text is cut at its last dot. -/
theorem exists_last_dot {s : List Char} (h : '.' ∈ s) :
    ∃ front tail, s = front ++ '.' :: tail ∧ '.' ∉ tail := by
  obtain ⟨tail, front, hs, htail⟩ := List.eq_append_cons_of_mem (List.mem_reverse.mpr h)
  refine ⟨front.reverse, tail.reverse, ?_, fun hmem => htail (List.mem_reverse.mp hmem)⟩
  rw [← List.reverse_reverse s, hs, List.reverse_append, List.reverse_cons, List.append_assoc,
    List.singleton_append]

/-- There is one last dot. -/
theorem last_dot_unique {front front' tail tail' : List Char} (h : '.' ∉ tail)
    (h' : '.' ∉ tail') (heq : front ++ '.' :: tail = front' ++ '.' :: tail') :
    front = front' ∧ tail = tail' := by
  rcases List.append_eq_append_iff.mp heq with ⟨gap, rfl, hgap⟩ | ⟨gap, rfl, hgap⟩
  · cases gap with
    | nil => exact ⟨(List.append_nil front).symm, (List.cons.inj hgap).2⟩
    | cons c gap =>
      obtain ⟨rfl, rfl⟩ := List.cons.inj hgap
      exact absurd (List.mem_append_right gap List.mem_cons_self) h
  · cases gap with
    | nil => exact ⟨List.append_nil front', (List.cons.inj hgap).2.symm⟩
    | cons c gap =>
      obtain ⟨rfl, rfl⟩ := List.cons.inj hgap
      exact absurd (List.mem_append_right gap List.mem_cons_self) h'

/-- A dot stays where it is. -/
theorem lowerAfter_dot (before u : List Char) :
    lowerAfter before ('.' :: u) = '.' :: lowerAfter ('.' :: before) u :=
  lowerAfter_append_of_small (List.forall_mem_singleton.mpr Registry.isSmall_dot) before u

/-- **A text that is cut at its last dot is so in lower case**: an ASCII text stands behind the dot
exactly if what is behind it, taken for itself, becomes that text. -/
theorem exists_lower_cut (hu : '.' ∉ u) (s : List Char) :
    ∃ front tail, lower (s ++ '.' :: u) = front ++ '.' :: tail ∧ '.' ∉ tail ∧
      (front = [] ↔ s = []) ∧
      ∀ ascii : List Char, (∀ c ∈ ascii, c.toNat < 128) →
        (tail = ascii ↔ lower ('.' :: u) = '.' :: ascii) := by
  obtain ⟨front, hfront, hne⟩ := lowerAfter_append [] s ('.' :: u)
  have htail := dot_notMem_lowerAfter hu ('.' :: (s.reverse ++ []))
  rw [lowerAfter_dot] at hfront
  refine ⟨front, _, hfront, htail, ⟨fun hnil => ?_, ?_⟩, fun ascii hascii => ?_⟩
  · by_contra hs
    exact hne hs hnil
  · rintro rfl
    have hdot : [] ++ '.' :: lowerAfter ['.'] u = front ++ '.' :: lowerAfter ['.'] u := hfront
    exact (last_dot_unique (dot_notMem_lowerAfter hu _) (dot_notMem_lowerAfter hu _) hdot).1.symm
  · rw [lower, lowerAfter_dot, List.cons_inj_right]
    constructor
    · rintro rfl
      exact lowerAfter_of_ascii hascii _
    · rintro rfl
      exact lowerAfter_of_ascii hascii _

end Text

namespace Path

variable {p : Path} {s u : List Char}

/-- **Where a suffix starts**: at the last dot, if that is at neither end of the name. -/
theorem suffix_of_name (h : p.name.toList = s ++ '.' :: u) (hu : '.' ∉ u) :
    p.suffix = if u ≠ [] ∧ s ≠ [] then String.ofList ('.' :: u) else "" := by
  have htail : ((s ++ '.' :: u).reverse.takeWhile (· != '.')).reverse = u := by
    have hrun : ∀ c ∈ u.reverse, (c != '.') = true := by
      intro c hc
      rw [bne_iff_ne]
      rintro rfl
      exact hu (List.mem_reverse.mp hc)
    rw [List.reverse_append, List.reverse_cons, List.append_assoc,
      List.takeWhile_append_of_pos hrun]
    simp
  have hcontains : (s ++ '.' :: u).contains '.' = true :=
    List.contains_iff_mem.mpr (List.mem_append_right s List.mem_cons_self)
  have hlength : (s ++ '.' :: u).length - u.length - 1 = s.length := by
    rw [List.length_append, List.length_cons]
    omega
  rw [suffix, h]
  simp only [htail, hcontains, hlength, Bool.and_true, Bool.and_eq_true, decide_eq_true_eq,
    List.length_pos_iff]

theorem suffix_of_no_dot (h : '.' ∉ p.name.toList) : p.suffix = "" := by
  have hcontains : p.name.toList.contains '.' = false :=
    Bool.eq_false_iff.mpr fun hmem => h (List.contains_iff_mem.mp hmem)
  simp only [suffix, hcontains, Bool.and_false, Bool.false_and, Bool.false_eq_true, if_false]

end Path

/-! ## 2. The suffix that a name ends in -/

namespace Registry

variable {r : Registry} {file : Path} {suffix : String}

/-- **ASCII texts behind one dot.** -/
def PlainSuffix (suffix : String) : Prop :=
  suffix.toList.head? = some '.' ∧ suffix.toList.tail ≠ [] ∧ '.' ∉ suffix.toList.tail ∧
    ∀ c ∈ suffix.toList.tail, c.toNat < 128

instance (suffix : String) : Decidable (PlainSuffix suffix) :=
  have : Decidable (∀ c ∈ suffix.toList.tail, c.toNat < 128) :=
    List.decidableBAll (fun c : Char => c.toNat < 128) _
  inferInstanceAs (Decidable (_ ∧ _ ∧ _ ∧ _))

/-- **The suffix that a name in lower case ends in** is the suffix of the name, in lower case. -/
theorem endsIn_lowered_iff (hplain : PlainSuffix suffix) :
    EndsIn (Text.lowered file.name) suffix ↔ Text.lowered file.suffix = suffix := by
  obtain ⟨hdot, hne, hnodot, hascii⟩ := hplain
  obtain ⟨tail, htail⟩ := List.head?_eq_some_iff.mp hdot
  rw [htail, List.tail_cons] at hne hnodot hascii
  rw [EndsIn, Text.lowered, String.toList_ofList, htail]
  by_cases hmem : '.' ∈ file.name.toList
  · obtain ⟨front, u, hname, hu⟩ := Text.exists_last_dot hmem
    obtain ⟨stem, end', hlower, hend, hstem, hcut⟩ := Text.exists_lower_cut hu front
    rw [hname, hlower, Path.suffix_of_name hname hu]
    constructor
    · rintro ⟨stem', hne', heq⟩
      obtain ⟨rfl, rfl⟩ := Text.last_dot_unique hend hnodot heq
      have hlast := (hcut _ hascii).mp rfl
      have hu' : u ≠ [] := by
        rintro rfl
        exact hne (List.cons.inj hlast).2.symm
      rw [if_pos ⟨hu', fun hfront => hne' (hstem.mpr hfront)⟩, Text.lowered, String.toList_ofList,
        hlast, ← htail, String.ofList_toList]
    · intro heq
      split at heq
      · rename_i hcond
        rw [← heq, Text.lowered, String.toList_ofList, String.toList_ofList] at htail
        obtain rfl := (hcut _ hascii).mpr htail
        exact ⟨stem, fun hnil => hcond.2 (hstem.mp hnil), rfl⟩
      · rw [← heq] at htail
        cases htail
  · rw [Path.suffix_of_no_dot hmem]
    constructor
    · rintro ⟨stem, -, hlower⟩
      refine absurd ?_ (Text.dot_notMem_lowerAfter hmem [])
      rw [← Text.lower, hlower]
      exact List.mem_append_right stem List.mem_cons_self
    · intro heq
      rw [← heq] at htail
      cases htail

/-! ## 3. The language of a suffix -/

/-- **A registry whose suffixes are plain looks up the suffix of the name**, in lower case. -/
theorem WellKept.resolve_eq_get? {cs : List Registration} (h : r.WellKept cs)
    (hplain : ∀ suffix ∈ Table.keys r.owners, PlainSuffix suffix) (file : Path) :
    r.resolve file = Table.get? r.owners (Text.lowered file.suffix) := by
  cases hl : r.resolve file with
  | some l =>
    obtain ⟨suffix, hindex, hends, howner⟩ := suffix_of_resolve hl
    have hsuffix := hplain suffix (h.index_perm.mem_iff.mp hindex)
    rw [(endsIn_lowered_iff hsuffix).mp (hasSuffix_iff.mp hends), howner]
  | none =>
    refine (Table.get?_eq_none_iff.mpr fun hkey => ?_).symm
    exact h.resolve_eq_none_iff.mp hl _ hkey ((endsIn_lowered_iff (hplain _ hkey)).mpr rfl)

end Registry

namespace Builtin

variable {file : Path} {l : Language} {b : Builtin}

/-- The languages that come along are registered by calls like any others. -/
theorem wellKept_registry :
    registry.WellKept ((all.map language).map fun l => ⟨l, l.extensions⟩) := by
  rw [registry, Registry.ofLanguages_eq]
  exact Registry.wellKept_ofRegistrations _

theorem plain_registry : ∀ suffix ∈ Table.keys registry.owners, Registry.PlainSuffix suffix := by
  decide +kernel

theorem owner_of_extension : ∀ b ∈ all, ∀ suffix ∈ b.language.extensions,
    Table.get? registry.owners suffix = some b.language := by
  decide +kernel

theorem extension_of_owner : ∀ entry ∈ registry.owners,
    ∃ b ∈ all, entry.2 = b.language ∧ entry.1 ∈ b.language.extensions := by
  decide +kernel

/-- **A file is of a language that comes along** if its suffix in lower case is one of those of the
language. -/
theorem resolve_of_suffix (h : Text.lowered file.suffix ∈ b.language.extensions) :
    registry.resolve file = some b.language := by
  rw [wellKept_registry.resolve_eq_get? plain_registry]
  exact owner_of_extension b (mem_all b) _ h

/-- **Only such files are**, of any language. -/
theorem suffix_of_resolve (h : registry.resolve file = some l) :
    ∃ b : Builtin, l = b.language ∧ Text.lowered file.suffix ∈ b.language.extensions := by
  rw [wellKept_registry.resolve_eq_get? plain_registry,
    Table.get?_eq_some_iff wellKept_registry.keys_nodup] at h
  obtain ⟨b, -, hl, hsuffix⟩ := extension_of_owner _ h
  exact ⟨b, hl, hsuffix⟩

end Builtin

end SourceCheck
