import SourceCheck.Proofs.Output.GoVetLines
import SourceCheck.Proofs.Output.LuacLines

/-!
# Located lines that are read back

Go vet and the Lua compiler put a path and a line number in front of a message, and sometimes their
own name in front of that.

* `Output.located_lines_read`: the output of both is read back.
-/

namespace SourceCheck

namespace Output

/-- **The findings of Go vet and those of the Lua compiler are read back**, one for each and in
order, whatever other lines stand between them. -/
theorem located_lines_read :
    (∀ streams : List (List (OutputLine GoVetFinding)),
      (∀ ls ∈ streams, ∀ l ∈ ls, GoVetFinding.format.Proper l) →
      goVet (streams.map GoVetFinding.format.output) =
        .ok ((streams.flatten.filterMap OutputLine.finding?).map GoVetFinding.diagnostic)) ∧
    ∀ streams : List (List (OutputLine LuacFinding)),
      (∀ ls ∈ streams, ∀ l ∈ ls, LuacFinding.format.Proper l) →
      luac (streams.map LuacFinding.format.output) =
        .ok ((streams.flatten.filterMap OutputLine.finding?).map LuacFinding.diagnostic) :=
  ⟨fun _ h => GoVetFinding.format.read_output h, fun _ h => LuacFinding.format.read_output h⟩

/-- A finding behind the name of the tool, with a position in its message. -/
def vetFinding : GoVetFinding where
  prefixed := true
  path := "my a.go".toList
  line := .ofNat 3
  column := some (.ofNat 14)
  message := "5: b.go:1: x".toList

/-- A finding without a column, whose message starts like one. -/
def plainVetFinding : GoVetFinding where
  prefixed := false
  path := "b.go".toList
  line := .ofNat 7
  column := none
  message := "8: y".toList

/-- A finding behind a name with spaces in its path, in a file with a colon in its name. -/
def luacFinding : LuacFinding where
  program := some ⟨"/opt/my lua/".toList, "5.4".toList, true⟩
  path := "a:1.lua".toList
  line := .ofNat 3
  message := "b.lua:9: near x".toList

/-- A finding without a name in front. -/
def plainLuacFinding : LuacFinding where
  program := none
  path := "luac".toList
  line := .ofNat 4
  message := "near y".toList

theorem sound_vetFinding : vetFinding.Sound where
  path_plain := by decide
  path_end := ⟨"my a".toList, by decide, by decide⟩
  path_start c hc := Option.some.inj hc ▸ by decide
  path_unbroken := by decide
  line := by decide
  column p hp := Option.some.inj hp ▸ by decide
  message := by decide
  trimmed := by decide
  message_unbroken := by decide

theorem sound_plainVetFinding : plainVetFinding.Sound where
  path_plain := by decide
  path_end := ⟨"b".toList, by decide, by decide⟩
  path_start c hc := Option.some.inj hc ▸ by decide
  path_unbroken := by decide
  line := by decide
  column := nofun
  message := by decide
  trimmed := by decide
  message_unbroken := by decide

theorem sound_luacFinding : luacFinding.Sound where
  program p hp := by
    obtain rfl := Option.some.inj hp
    exact ⟨by decide, by decide, List.all_eq_true.mp (by decide)⟩
  path_start := ⟨'a', rfl, by decide⟩
  path_plain := by decide +kernel
  path_unbroken := by decide
  line := by decide
  message := by decide
  trimmed := by decide
  message_unbroken := by decide

theorem sound_plainLuacFinding : plainLuacFinding.Sound where
  program := nofun
  path_start := ⟨'l', rfl, by decide⟩
  path_plain := by decide
  path_unbroken := by decide
  line := by decide
  message := by decide
  trimmed := by decide
  message_unbroken := by decide

theorem located_lines_read_mixed :
    (∀ ls ∈ [[OutputLine.finding vetFinding, .noise "# pkg".toList, .finding plainVetFinding]],
      ∀ l ∈ ls, GoVetFinding.format.Proper l) ∧
    (∀ ls ∈ [[OutputLine.finding luacFinding, .noise "a.lua:0 x".toList],
        [.finding plainLuacFinding]],
      ∀ l ∈ ls, LuacFinding.format.Proper l) ∧
    goVet ([[OutputLine.finding vetFinding, .noise "# pkg".toList, .finding plainVetFinding]].map
        GoVetFinding.format.output) =
      .ok [vetFinding.diagnostic, plainVetFinding.diagnostic] ∧
    luac ([[OutputLine.finding luacFinding, .noise "a.lua:0 x".toList],
        [.finding plainLuacFinding]].map LuacFinding.format.output) =
      .ok [luacFinding.diagnostic, plainLuacFinding.diagnostic] := by
  have hvet : ∀ ls ∈
      [[OutputLine.finding vetFinding, .noise "# pkg".toList, .finding plainVetFinding]],
      ∀ l ∈ ls, GoVetFinding.format.Proper l := by
    rw [List.forall_mem_singleton, List.forall_mem_cons, List.forall_mem_cons,
      List.forall_mem_singleton]
    exact ⟨sound_vetFinding, ⟨by decide, by decide⟩, sound_plainVetFinding⟩
  have hluac : ∀ ls ∈
      [[OutputLine.finding luacFinding, .noise "a.lua:0 x".toList], [.finding plainLuacFinding]],
      ∀ l ∈ ls, LuacFinding.format.Proper l := by
    rw [List.forall_mem_cons, List.forall_mem_cons, List.forall_mem_singleton,
      List.forall_mem_singleton, List.forall_mem_singleton]
    exact ⟨⟨sound_luacFinding, ⟨by decide, by decide⟩⟩, sound_plainLuacFinding⟩
  exact ⟨hvet, hluac, located_lines_read.1 _ hvet, located_lines_read.2 _ hluac⟩

end Output

end SourceCheck
