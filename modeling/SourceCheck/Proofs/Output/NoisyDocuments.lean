import SourceCheck.Proofs.Json.Equality
import SourceCheck.Proofs.Json.Limits
import SourceCheck.Proofs.Json.Respacing
import SourceCheck.Proofs.Output.PyrightFindings

/-!
# Documents behind noise

A tool may print something in front of its document.  If that has no opening brace, and the
document is an object, the object is found whatever the noise is: a text that ends with a closing
brace can only be a document if it starts with an opening one, so the whole output is none, and the
first brace is that of the object.  For any output what is found is the whole text, or the part from
its first brace on, or nothing.

* `Json.FoundIn`: what is found in a text, with one named case for each way.
* `Json.exists_foundIn`: something of this kind is found if it is decided what both texts are.
* `Json.inOutput?_noise`: objects behind noise are found.
* `Json.object_found_behind_noise`: both, for texts with short numbers in which no level is too
  deep.
-/

namespace SourceCheck.Json

open Text

variable {d : Dialect} {s q b : List Char} {c : Char} {v : Json} {output : String}
  {found : Option Json}

/-! ## 1. What is found in a text -/

/-- **What is found in a text**: the document that it is as a whole, or else the one from its first
brace on, if that is not its start, or else nothing. -/
inductive FoundIn (d : Dialect) (text : List Char) : Option Json → Prop
  | whole {v : Json} (h : readChars d text = .ok v) : FoundIn d text (some v)
  | behind {noise rest : List Char} {v : Json} (hwhole : readChars d text = .error .malformed)
      (htext : text = noise ++ '\x7b' :: rest) (hne : noise ≠ []) (hnoise : '\x7b' ∉ noise)
      (h : readChars d ('\x7b' :: rest) = .ok v) : FoundIn d text (some v)
  | nothing (hwhole : readChars d text = .error .malformed)
      (hrest : ∀ noise rest, text = noise ++ '\x7b' :: rest → noise ≠ [] → '\x7b' ∉ noise →
        readChars d ('\x7b' :: rest) = .error .malformed) : FoundIn d text none

theorem ne_brace (h : '\x7b' ∉ q) : ∀ c ∈ q, (c != '\x7b') = true := by
  intro c hc
  rw [bne_iff_ne]
  rintro rfl
  exact h hc

/-- Where a text is cut at its first brace. -/
theorem dropWhile_ne_brace (h : '\x7b' ∉ q) (s : List Char) :
    (q ++ '\x7b' :: s).dropWhile (· != '\x7b') = '\x7b' :: s := by
  rw [List.dropWhile_append_of_pos (ne_brace h), List.dropWhile_cons_of_neg (by simp)]

theorem dropWhile_of_notMem_brace (h : '\x7b' ∉ s) : s.dropWhile (· != '\x7b') = [] :=
  List.dropWhile_eq_nil_iff.mpr (ne_brace h)

/-- Which text is not cut at all. -/
theorem dropWhile_brace_cons_iff {s : List Char} :
    (c :: s).dropWhile (· != '\x7b') = c :: s ↔ c = '\x7b' := by
  rw [List.dropWhile_eq_self_iff]
  simp

/-- There is one first brace. -/
theorem first_brace_unique {noise noise' rest rest' : List Char} (hnoise : '\x7b' ∉ noise)
    (hnoise' : '\x7b' ∉ noise') (h : noise ++ '\x7b' :: rest = noise' ++ '\x7b' :: rest') :
    noise = noise' ∧ rest = rest' := by
  have hcut : '\x7b' :: rest = '\x7b' :: rest' := by
    rw [← dropWhile_ne_brace hnoise, h, dropWhile_ne_brace hnoise']
  rw [hcut] at h
  exact ⟨List.append_cancel_right h, (List.cons.inj hcut).2⟩

/-- What such a reading can be. -/
theorem Decided.cases (h : Decided d s) :
    (∃ v, readChars d s = .ok v) ∨ readChars d s = .error .malformed := by
  cases hs : readChars d s with
  | ok v => exact .inl ⟨v, rfl⟩
  | error e =>
    rw [h e hs]
    exact .inr rfl

/-- What is found in the part from the first brace on, if the whole is no document. -/
theorem exists_foundIn_part {noise rest : List Char} (hne : noise ≠ []) (hnoise : '\x7b' ∉ noise)
    (hwhole : readChars d (noise ++ '\x7b' :: rest) = .error .malformed)
    (hpart : Decided d ('\x7b' :: rest)) :
    ∃ found, ofRead (readChars d ('\x7b' :: rest)) = .ok found ∧
      FoundIn d (noise ++ '\x7b' :: rest) found := by
  rcases hpart.cases with ⟨v, hv⟩ | hmalformed
  · rw [hv]
    exact ⟨some v, rfl, .behind hwhole rfl hne hnoise hv⟩
  · rw [hmalformed]
    refine ⟨none, rfl, .nothing hwhole fun noise' rest' heq _ hnoise' => ?_⟩
    rw [← (first_brace_unique hnoise hnoise' heq).2]
    exact hmalformed

/-- **The whole text is found, or its part from the first brace on, or nothing**, if it is decided
of both what they are. -/
theorem exists_foundIn (hwhole : Decided d (trim output.toList))
    (hpart : readChars d (trim output.toList) = .error .malformed →
      Decided d ((trim output.toList).dropWhile (· != '\x7b'))) :
    ∃ found, inOutput? d output = .ok found ∧ FoundIn d (trim output.toList) found := by
  rcases hwhole.cases with ⟨v, hv⟩ | hmalformed
  · exact ⟨some v, inOutput?_of_readChars hv, .whole hv⟩
  · rw [inOutput?_of_malformed hmalformed]
    replace hpart := hpart hmalformed
    generalize trim output.toList = text at *
    by_cases hbrace : '\x7b' ∈ text
    · obtain ⟨noise, rest, rfl, hnoise⟩ := List.eq_append_cons_of_mem hbrace
      rw [dropWhile_ne_brace hnoise] at hpart ⊢
      by_cases hne : noise = []
      · subst hne
        refine ⟨none, by simp, .nothing hmalformed fun noise' rest' heq hne' hnoise' => ?_⟩
        exact absurd (first_brace_unique hnoise hnoise' heq).1.symm hne'
      · have hlater : '\x7b' :: rest ≠ noise ++ '\x7b' :: rest := by
          rw [ne_eq, List.self_eq_append_left]
          exact hne
        simp only [reduceCtorEq, hlater, decide_false, Bool.or_self, Bool.false_eq_true, if_false]
        exact exists_foundIn_part hne hnoise hmalformed hpart
    · rw [dropWhile_of_notMem_brace hbrace]
      refine ⟨none, rfl, .nothing hmalformed fun noise rest heq _ _ => ?_⟩
      exact absurd (heq ▸ List.mem_append_right noise List.mem_cons_self) hbrace

/-! ## 2. Objects behind noise -/

theorem isBlank_of_skip (h : skip s = []) : ∀ c ∈ s, isBlank c = true := by
  intro c hc
  have hspace := List.dropWhile_eq_nil_iff.mp h c hc
  simp only [isSpace, Bool.or_eq_true, beq_iff_eq] at hspace
  rcases hspace with ((rfl | rfl) | rfl) | rfl <;> decide

/-- **A document that ends with a closing brace starts with an opening one.** -/
theorem head?_of_getLast? (h : readChars d s = .ok v)
    (hhead : ∀ c ∈ s.head?, isBlank c = false) (hlast : s.getLast? = some '\x7d') :
    s.head? = some '\x7b' := by
  obtain ⟨front, b, back, rfl, hfront, hspans, hback⟩ := exists_spans h
  have hfront : front = [] := by
    cases front with
    | nil => rfl
    | cons c front =>
      have hc := hhead c rfl
      rw [isBlank_of_skip hfront c List.mem_cons_self] at hc
      cases hc
  have hback : back = [] := by
    by_contra hne
    rw [List.getLast?_append_of_ne_nil _ hne] at hlast
    exact absurd (isBlank_of_skip hback _ (List.mem_of_getLast? hlast)) (by decide)
  subst hfront hback
  rw [List.nil_append, List.append_nil] at hlast ⊢
  exact hspans.head.mpr (hspans.last.mp hlast)

/-- **The text of an object**, without the white space around it. -/
theorem exists_object {ms : Members} (h : readChars d s = .ok (.object ms)) :
    ∃ front rest back, s = front ++ '\x7b' :: rest ++ back ∧ skip front = [] ∧ skip back = [] ∧
      ('\x7b' :: rest).getLast? = some '\x7d' ∧
      readChars d ('\x7b' :: rest) = .ok (.object ms) := by
  obtain ⟨front, b, back, rfl, hfront, hspans, hback⟩ := exists_spans h
  rw [readChars_between hfront hback] at h
  obtain ⟨rest, rfl⟩ := List.head?_eq_some_iff.mp (hspans.head.mpr rfl)
  exact ⟨front, rest, back, rfl, hfront, hback, hspans.last.mpr rfl, h⟩

/-- Trimming leaves noise without white space in front of it, and the object. -/
theorem exists_trim_noise {noise rest back : List Char} (hnoise : '\x7b' ∉ noise)
    (hback : skip back = []) (hlast : ('\x7b' :: rest).getLast? = some '\x7d') :
    ∃ q, trim (noise ++ '\x7b' :: rest ++ back) = q ++ '\x7b' :: rest ∧ '\x7b' ∉ q ∧
      ∀ c ∈ (q ++ '\x7b' :: rest).head?, isBlank c = false := by
  have hhead : ∀ c ∈ (trimLeft noise ++ '\x7b' :: rest).head?, isBlank c = false := by
    cases hq : trimLeft noise with
    | nil => exact fun c hc => Option.some.inj hc ▸ rfl
    | cons d q => exact fun c hc => head?_dropWhile_false noise c (by rw [← trimLeft, hq]; exact hc)
  refine ⟨trimLeft noise, ?_, fun h => hnoise ((List.dropWhile_sublist _).subset h), hhead⟩
  have hfirm : EndsFirm (trimLeft noise ++ '\x7b' :: rest) := by
    intro c hc
    rw [List.getLast?_append_of_ne_nil _ (List.cons_ne_nil _ _), hlast] at hc
    exact Option.some.inj hc ▸ rfl
  have hpre : ∀ c ∈ noise.takeWhile isBlank, isBlank c = true :=
    fun c hc => List.mem_takeWhile_imp hc
  have hbetween := trim_between hpre hhead hfirm (isBlank_of_skip hback)
  rwa [← List.append_assoc, ← List.append_assoc, trimLeft, List.takeWhile_append_dropWhile]
    at hbetween

/-- An object behind noise is what is found. -/
theorem FoundIn.eq_object {rest : List Char} {ms : Members}
    (h : FoundIn d (q ++ '\x7b' :: rest) found) (hq : '\x7b' ∉ q)
    (hhead : ∀ c ∈ (q ++ '\x7b' :: rest).head?, isBlank c = false)
    (hlast : ('\x7b' :: rest).getLast? = some '\x7d')
    (hread : readChars d ('\x7b' :: rest) = .ok (.object ms)) : found = some (.object ms) := by
  cases h with
  | @whole v hv =>
    -- the whole ends with a closing brace, so it starts with an opening one: there is no noise
    have hend : (q ++ '\x7b' :: rest).getLast? = some '\x7d' := by
      rwa [List.getLast?_append_of_ne_nil _ (List.cons_ne_nil _ _)]
    have hstart := head?_of_getLast? hv hhead hend
    cases q with
    | nil =>
      rw [List.nil_append, hread] at hv
      rw [Except.ok.inj hv]
    | cons c q =>
      rw [List.cons_append, List.head?_cons, Option.some.injEq] at hstart
      exact absurd (hstart ▸ List.mem_cons_self) hq
  | @behind noise rest' v _ htext _ hnoise hv =>
    rw [← (first_brace_unique hq hnoise htext).2, hread] at hv
    rw [Except.ok.inj hv]
  | nothing hwhole hrest =>
    by_cases hnil : q = []
    · subst hnil
      rw [List.nil_append, hread] at hwhole
      cases hwhole
    · have hpart := hrest q rest rfl hnil hq
      rw [hread] at hpart
      cases hpart

/-- **An object behind noise is found**, if the noise has no opening brace and it is decided what
the whole is. -/
theorem inOutput?_noise {noise t : String} {ms : Members} (hnoise : '\x7b' ∉ noise.toList)
    (ht : read d t = .ok (.object ms)) (hdecided : Decided d (trim (noise ++ t).toList)) :
    inOutput? d (noise ++ t) = .ok (some (.object ms)) := by
  obtain ⟨front, rest, back, htext, hfront, hback, hlast, hread⟩ := exists_object ht
  have hnoise' : '\x7b' ∉ noise.toList ++ front := by
    rw [List.mem_append, not_or]
    exact ⟨hnoise, fun hmem => absurd (isBlank_of_skip hfront _ hmem) (by decide)⟩
  obtain ⟨q, htrim, hq, hhead⟩ := exists_trim_noise hnoise' hback hlast
  have hsplit : (noise ++ t).toList = noise.toList ++ front ++ '\x7b' :: rest ++ back := by
    rw [String.toList_append, htext]
    simp only [List.append_assoc]
  rw [← hsplit] at htrim
  have hpart : Decided d ((trim (noise ++ t).toList).dropWhile (· != '\x7b')) := by
    rw [htrim, dropWhile_ne_brace hq]
    intro e he
    rw [hread] at he
    cases he
  obtain ⟨found, hfound, hkind⟩ := exists_foundIn hdecided fun _ => hpart
  rw [htrim] at hkind
  rw [hfound, hkind.eq_object hq hhead hlast hread]

/-! ## 3. Texts within the limits -/

/-- The part of the trimmed text from its first brace on. -/
theorem moderate_part {bounds : Bounds} (h : Moderate bounds 0 (s.dropWhile (· != '\x7b'))) :
    Moderate bounds 0 ((trim s).dropWhile (· != '\x7b')) := by
  obtain ⟨pre, post, hs, hpre, hpost⟩ := exists_trim s
  by_cases hbrace : '\x7b' ∈ trim s
  · obtain ⟨noise, rest, htrim, hnoise⟩ := List.eq_append_cons_of_mem hbrace
    have hfront : '\x7b' ∉ pre ++ noise := by
      rw [List.mem_append, not_or]
      exact ⟨fun hmem => absurd (hpre _ hmem) (by decide), hnoise⟩
    have hsplit : s = pre ++ noise ++ '\x7b' :: (rest ++ post) := by
      rw [hs, htrim]
      simp only [List.append_assoc, List.cons_append]
    rw [hsplit, dropWhile_ne_brace hfront] at h
    rw [htrim, dropWhile_ne_brace hnoise]
    have hpadded : Moderate bounds 0 ([] ++ ('\x7b' :: rest ++ post)) := h
    exact hpadded.of_padded (List.forall_mem_nil _) hpost
  · rw [dropWhile_of_notMem_brace hbrace]
    refine ⟨runsShort_of_short (by decide) _, Nat.zero_le _, fun _ x _ hinside => ?_⟩
    exact absurd (List.infix_nil.mp hinside) (List.cons_ne_nil _ _)

/-- **Objects are found behind noise, and the search always ends well**, if numbers are short and no
text that is read has a level too deep, wherever the levels end and whatever becomes of half a
surrogate pair: an object is found behind whatever has no opening brace, and any output at all is
read as the document that it is, or as the one from its first brace on, or as none.  A text is
followed to its end if it is not nested too deeply and does not escape half a surrogate pair that is
not followed. -/
theorem object_found_behind_noise (room : Depth) (halfPair : HalfPair) :
    (∀ (noise t : String) (ms : Members), '\x7b' ∉ noise.toList →
      read (.file room halfPair) t = .ok (.object ms) →
      RunsShort Char.isDigit (noise ++ t).toList →
      Shallow room halfPair (trim (noise ++ t).toList) →
      inOutput? (.file room halfPair) (noise ++ t) = .ok (some (.object ms))) ∧
    (∀ output : String, RunsShort Char.isDigit output.toList →
      Shallow room halfPair (trim output.toList) →
      (readChars (.file room halfPair) (trim output.toList) = .error .malformed →
        Shallow room halfPair ((trim output.toList).dropWhile (· != '\x7b'))) →
      ∃ found, inOutput? (.file room halfPair) output = .ok found ∧
        FoundIn (.file room halfPair) (trim output.toList) found) ∧
    ∀ s : List Char, RunsShort Char.isDigit s → (halfPair = .unfollowed → Unhalved s) →
      (nesting s + room.reserve ≤ room.levels → Shallow room halfPair (trim s)) ∧
      (nesting (s.dropWhile (· != '\x7b')) + room.reserve ≤ room.levels →
        Shallow room halfPair ((trim s).dropWhile (· != '\x7b'))) := by
  refine ⟨fun noise t ms hnoise ht hdigits hshallow => ?_,
    fun output hdigits hwhole hpart => ?_, fun s hdigits hhalf => ?_⟩
  · exact inOutput?_noise hnoise ht (hshallow.decided hdigits.trim)
  · exact exists_foundIn (hwhole.decided hdigits.trim) fun hmalformed =>
      (hpart hmalformed).decided (hdigits.trim.mono (List.dropWhile_suffix _).isInfix)
  · have hhalves : halfPair = .unfollowed → decide (halfPair ≠ .unfollowed) = false :=
      fun hno => decide_eq_false (not_not.mpr hno)
    have hmoderate : ∀ r, r <:+: s →
        Moderate ⟨nesting r, decide (halfPair ≠ .unfollowed)⟩ 0 r := fun r hr =>
      ⟨hdigits.mono hr, le_rfl, fun hno => (hhalf (not_not.mp (of_decide_eq_false hno))).mono hr⟩
    refine ⟨fun hwhole => ?_, fun hpart => ?_⟩
    · exact (hmoderate s List.infix_rfl).trim.shallow hwhole hhalves
    · exact (moderate_part (hmoderate _ (List.dropWhile_suffix _).isInfix)).shallow hpart hhalves

/-- What a launcher prints in front of a report: a byte order mark, brackets and a quote. -/
def launcherNoise : String := "\uFEFF [npx] 3 \"packages\n  "

/-- A report without findings. -/
def emptyReport : String := "\x7b\"generalDiagnostics\": []\x7d \n"

theorem object_found_behind_launcherNoise :
    '\x7b' ∉ launcherNoise.toList ∧
    read (.file .usual .unfollowed) emptyReport =
      .ok (.object [("generalDiagnostics", .array [])]) ∧
    RunsShort Char.isDigit (launcherNoise ++ emptyReport).toList ∧
    Unhalved (launcherNoise ++ emptyReport).toList ∧
    nesting (launcherNoise ++ emptyReport).toList + Depth.usual.reserve ≤ Depth.usual.levels ∧
    nesting ((launcherNoise ++ emptyReport).toList.dropWhile (· != '\x7b')) + Depth.usual.reserve ≤
      Depth.usual.levels ∧
    inOutput? (.file .usual .unfollowed) (launcherNoise ++ emptyReport) =
      .ok (some (.object [("generalDiagnostics", .array [])])) ∧
    ∃ found, inOutput? (.file .usual .unfollowed) (launcherNoise ++ emptyReport) = .ok found ∧
      FoundIn (.file .usual .unfollowed) (trim (launcherNoise ++ emptyReport).toList) found := by
  have hnoise : '\x7b' ∉ launcherNoise.toList := by decide +kernel
  have hread : read (.file .usual .unfollowed) emptyReport =
      .ok (.object [("generalDiagnostics", .array [])]) := by
    decide +kernel
  have hdigits : RunsShort Char.isDigit (launcherNoise ++ emptyReport).toList :=
    runsShort_of_short (by decide +kernel) _
  have hunhalved : Unhalved (launcherNoise ++ emptyReport).toList :=
    unhalved_of_notMem (by decide +kernel)
  have hwhole : nesting (launcherNoise ++ emptyReport).toList + Depth.usual.reserve ≤
      Depth.usual.levels := by
    decide +kernel
  have hpart : nesting ((launcherNoise ++ emptyReport).toList.dropWhile (· != '\x7b')) +
      Depth.usual.reserve ≤ Depth.usual.levels := by
    decide +kernel
  obtain ⟨hobject, hfound, hshallow⟩ := object_found_behind_noise .usual .unfollowed
  obtain ⟨hwhole', hpart'⟩ := hshallow _ hdigits fun _ => hunhalved
  exact ⟨hnoise, hread, hdigits, hunhalved, hwhole, hpart,
    hobject _ _ _ hnoise hread hdigits (hwhole' hwhole),
    hfound _ hdigits (hwhole' hwhole) fun _ => hpart' hpart⟩

end SourceCheck.Json
