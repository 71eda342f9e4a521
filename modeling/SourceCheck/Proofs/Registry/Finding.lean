import SourceCheck.Builtin.Language
import SourceCheck.Proofs.Registry.Registering

/-!
# The language that an identifier designates

An identifier is looked for in the list of languages, not among the owners of suffixes.  The two say
the same about who is there: a language is listed exactly if it owns a suffix.  So what is found
owns a suffix, and what a file resolves to can be found, unless a language that is listed earlier
has the same identifier.

* `Text.trim_map_toLower`, `Recased`: texts that differ in letter case and outer white space only.
* `Bears`: the identifiers of a language, said without lists.
* `FirstBearer`: the first language of a list with an identifier.
* `find_listed`: what is found, and what can be found.
-/

namespace SourceCheck

/-! ## 1. Letter case and outer white space -/

namespace Text

variable {s u : List Char}

theorem isBlank_toLower (c : Char) : isBlank c.toLower = isBlank c :=
  ascii_case isBlank (by decide) c

/-- Trimming does not look at the letter case of ASCII letters. -/
theorem trim_map_toLower (s : List Char) :
    trim (s.map Char.toLower) = (trim s).map Char.toLower := by
  have hblank : isBlank ∘ Char.toLower = isBlank := funext isBlank_toLower
  rw [trim, trim, trimLeft, trimLeft, trimRight, trimRight, List.dropWhile_map, hblank,
    ← List.map_reverse, List.dropWhile_map, hblank, List.map_reverse]

/-- **Texts that differ only in the letter case of ASCII letters and in outer white space.** -/
def Recased (s u : List Char) : Prop :=
  ∃ before core after before' core' after', s = before ++ (core ++ after) ∧
    u = before' ++ (core' ++ after') ∧ core.map Char.toLower = core'.map Char.toLower ∧
    (∀ c ∈ before ++ after, isBlank c = true) ∧ ∀ c ∈ before' ++ after', isBlank c = true

theorem Recased.lower_trim_eq (h : Recased s u) : lower (trim s) = lower (trim u) := by
  obtain ⟨before, core, after, before', core', after', rfl, rfl, hcase, hblank, hblank'⟩ := h
  obtain ⟨hbefore, hafter⟩ := List.forall_mem_append.mp hblank
  obtain ⟨hbefore', hafter'⟩ := List.forall_mem_append.mp hblank'
  rw [trim_padded hbefore hafter, trim_padded hbefore' hafter']
  refine lower_of_ascii_case ?_
  rw [← trim_map_toLower, hcase, trim_map_toLower]

end Text

namespace Registry

variable {cs : List Registration} {r : Registry} {l l' : Language} {identifier identifier' : String}
  {file : Path}

/-! ## 2. Identifiers -/

/-- **A language bears an identifier** if the trimmed identifier is its code, its name or its flag,
in any letter case. -/
def Bears (l : Language) (identifier : String) : Prop :=
  ∃ word ∈ [l.code, l.name, l.flag],
    Text.lower (Text.trim identifier.toList) = Text.lower word.toList

theorem isNamed_iff : l.isNamed identifier = true ↔ Bears l identifier := by
  rw [Language.isNamed, List.contains_iff_mem, Language.normalIdentifier, Language.identifiers,
    Bears]
  simp only [Text.lowered, List.mem_cons, List.not_mem_nil, or_false, String.ofList_inj,
    exists_eq_or_imp, exists_eq_left]

/-- Letter case and outer white space do not matter to who bears an identifier. -/
theorem bears_congr (h : Text.Recased identifier.toList identifier'.toList) :
    Bears l identifier ↔ Bears l identifier' := by
  rw [Bears, Bears, h.lower_trim_eq]

/-- **Who bears a code without outer white space**: the languages with this identifier. -/
theorem bears_code_iff (h : Text.trim l.code.toList = l.code.toList) :
    Bears l' l.code ↔ Text.lowered l.code ∈ l'.identifiers := by
  rw [← isNamed_iff, Language.isNamed, List.contains_iff_mem, Language.normalIdentifier, h,
    Text.lowered]

/-! ## 3. The first language -/

/-- **The first language of a list that bears an identifier.** -/
def FirstBearer (ls : List Language) (identifier : String) (l : Language) : Prop :=
  ∃ before after, ls = before ++ l :: after ∧ Bears l identifier ∧
    ∀ earlier ∈ before, ¬ Bears earlier identifier

theorem find_eq_some_iff : r.find identifier = some l ↔ FirstBearer r.languages identifier l := by
  rw [find, List.find?_eq_some_iff_append, FirstBearer]
  simp only [isNamed_iff, Bool.not_eq_true', ← Bool.not_eq_true]
  constructor
  · rintro ⟨hbears, before, after, hlist, hbefore⟩
    exact ⟨before, after, hlist, hbears, hbefore⟩
  · rintro ⟨before, after, hlist, hbears, hbefore⟩
    exact ⟨hbears, before, after, hlist, hbefore⟩

theorem find_eq_none_iff :
    r.find identifier = none ↔ ∀ l ∈ r.languages, ¬ Bears l identifier := by
  rw [find, List.find?_eq_none]
  simp only [isNamed_iff]

theorem find_congr (h : Text.Recased identifier.toList identifier'.toList) :
    r.find identifier = r.find identifier' := by
  have hnamed : ∀ l : Language, l.isNamed identifier = l.isNamed identifier' := fun l =>
    Bool.eq_iff_iff.mpr (isNamed_iff.trans ((bears_congr h).trans isNamed_iff.symm))
  rw [find, find, funext hnamed]

/-! ## 4. What can be found -/

/-- **What is found owns a suffix**: the last call that names the suffix is one of its own. -/
theorem WellKept.owns_of_find (h : r.WellKept cs) (hfind : r.find identifier = some l) :
    ∃ suffix, lastNaming cs suffix = some l := by
  obtain ⟨suffix, howner⟩ := (h.mem_languages_iff l).mp (List.mem_of_find?_eq_some hfind)
  exact ⟨suffix, (h.owner suffix).symm.trans howner⟩

/-- **A language that a file resolves to can be found by its code**: something is found, and it is
the language itself if none that is listed earlier has this identifier. -/
theorem WellKept.find_code_of_resolve (h : r.WellKept cs) (hresolve : r.resolve file = some l)
    (hcode : Text.trim l.code.toList = l.code.toList) :
    l ∈ r.languages ∧ (∃ l', r.find l.code = some l') ∧
      ∀ before after, r.languages = before ++ l :: after →
        (∀ earlier ∈ before, Text.lowered l.code ∉ earlier.identifiers) →
        r.find l.code = some l := by
  have hlisted := h.mem_languages_of_resolve hresolve
  have hbears : Bears l l.code := (bears_code_iff hcode).mpr List.mem_cons_self
  refine ⟨hlisted, ?_, fun before after hlist hbefore => ?_⟩
  · refine Option.ne_none_iff_exists'.mp fun hnone => ?_
    exact find_eq_none_iff.mp hnone l hlisted hbears
  · refine find_eq_some_iff.mpr ⟨before, after, hlist, hbears, fun earlier hearlier hbears => ?_⟩
    exact hbefore earlier hearlier ((bears_code_iff hcode).mp hbears)

/-- **Finding languages**, whatever calls the registry was made by.

The first listed language that bears an identifier is found, and nothing exactly if there is none;
letter case and white space around the identifier do not matter.  What is found owns a suffix that
no later call has taken.  If a file resolves to a language and its code has no outer white space,
the code finds something, and it finds this language if none that is listed earlier shares an
identifier with it. -/
theorem find_listed (cs : List Registration) :
    (∀ identifier l, (ofRegistrations cs).find identifier = some l ↔
      FirstBearer (ofRegistrations cs).languages identifier l) ∧
    (∀ identifier, (ofRegistrations cs).find identifier = none ↔
      ∀ l ∈ (ofRegistrations cs).languages, ¬ Bears l identifier) ∧
    (∀ identifier l, (ofRegistrations cs).find identifier = some l →
      ∃ suffix, lastNaming cs suffix = some l) ∧
    (∀ file l, (ofRegistrations cs).resolve file = some l →
      Text.trim l.code.toList = l.code.toList →
      l ∈ (ofRegistrations cs).languages ∧ (∃ l', (ofRegistrations cs).find l.code = some l') ∧
        ∀ before after, (ofRegistrations cs).languages = before ++ l :: after →
          (∀ earlier ∈ before, ∀ i ∈ l.identifiers, i ∉ earlier.identifiers) →
          (ofRegistrations cs).find l.code = some l) ∧
    ∀ identifier identifier', Text.Recased identifier.toList identifier'.toList →
      (ofRegistrations cs).find identifier = (ofRegistrations cs).find identifier' := by
  have h := wellKept_ofRegistrations cs
  refine ⟨fun _ _ => find_eq_some_iff, fun _ => find_eq_none_iff, fun _ _ => h.owns_of_find, ?_,
    fun _ _ => find_congr⟩
  intro file l hresolve hcode
  obtain ⟨hlisted, hfound, hitself⟩ := h.find_code_of_resolve hresolve hcode
  refine ⟨hlisted, hfound, fun before after hlist hapart => hitself before after hlist ?_⟩
  exact fun earlier hearlier => hapart earlier hearlier _ List.mem_cons_self

/-- A language whose only suffix a later call takes. -/
def oldLua : Language :=
  { Builtin.lua.language with key := 100, name := "Old Lua", code := "old", flag := "OldLua" }

/-- A language that has its flag in common with one that is listed earlier. -/
def teal : Language := { Builtin.lua.language with key := 101, name := "Teal", code := "tl" }

/-- Four languages, of which three are left. -/
def luaCalls : List Registration := [
  ⟨oldLua, [".lua"]⟩, ⟨Builtin.lua.language, [" LUA"]⟩, ⟨teal, [".tl"]⟩,
  ⟨Builtin.python.language, [".py"]⟩]

theorem ofRegistrations_luaCalls : ofRegistrations luaCalls =
    ⟨[(".lua", Builtin.lua.language), (".tl", teal), (".py", Builtin.python.language)],
      [Builtin.lua.language, teal, Builtin.python.language], [".lua", ".tl", ".py"]⟩ := by
  have hindex : longestFirst [".lua", ".tl", ".py"] = [".lua", ".tl", ".py"] :=
    List.mergeSort_of_pairwise (by decide)
  rw [← hindex]
  rfl

theorem find_listed_lua :
    (ofRegistrations luaCalls).languages = [Builtin.lua.language, teal, Builtin.python.language] ∧
    (ofRegistrations luaCalls).find "old" = none ∧
    Bears teal "lua" ∧ (ofRegistrations luaCalls).find "lua" = some Builtin.lua.language ∧
    (∃ suffix, lastNaming luaCalls suffix = some Builtin.lua.language) ∧
    (ofRegistrations luaCalls).resolve ⟨.root, ["a.tl"]⟩ = some teal ∧
    (∃ l, (ofRegistrations luaCalls).find teal.code = some l) ∧
    (ofRegistrations luaCalls).resolve ⟨.root, ["a.py"]⟩ = some Builtin.python.language ∧
    (ofRegistrations luaCalls).find Builtin.python.language.code =
      some Builtin.python.language ∧
    Text.Recased "lua".toList "  LuA".toList ∧
    (ofRegistrations luaCalls).find "lua" = (ofRegistrations luaCalls).find "  LuA" := by
  obtain ⟨hfirst, hnone, howns, hcode, hcase⟩ := find_listed luaCalls
  have hlisted : (ofRegistrations luaCalls).languages =
      [Builtin.lua.language, teal, Builtin.python.language] := by
    rw [ofRegistrations_luaCalls]
  have hbears : Bears Builtin.lua.language "lua" := by
    unfold Bears
    decide
  have hlua := (hfirst "lua" _).mpr ⟨[], _, hlisted, hbears, by simp⟩
  have hteal : (ofRegistrations luaCalls).resolve ⟨.root, ["a.tl"]⟩ = some teal := by
    rw [ofRegistrations_luaCalls]
    rfl
  have hpython : (ofRegistrations luaCalls).resolve ⟨.root, ["a.py"]⟩ =
      some Builtin.python.language := by
    rw [ofRegistrations_luaCalls]
    rfl
  have hblank : ∀ c ∈ [' ', ' '], Text.isBlank c = true :=
    List.forall_mem_cons.mpr ⟨by decide, List.forall_mem_singleton.mpr (by decide)⟩
  have hrecased : Text.Recased "lua".toList "  LuA".toList :=
    ⟨[], ['l', 'u', 'a'], [], [' ', ' '], ['L', 'u', 'A'], [], rfl, rfl, by decide, nofun, hblank⟩
  refine ⟨hlisted, (hnone _).mpr ?_, ?_, hlua, howns _ _ hlua, hteal,
    (hcode _ _ hteal (by decide)).2.1, hpython,
    (hcode _ _ hpython (by decide)).2.2 [Builtin.lua.language, teal] [] hlisted (by decide),
    hrecased, hcase _ _ hrecased⟩
  · rw [hlisted]
    unfold Bears
    decide
  · unfold Bears
    decide

end Registry

end SourceCheck
