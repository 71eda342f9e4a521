import SourceCheck.Builtin.Backend
import SourceCheck.Proofs.Builtin.Placing
import SourceCheck.Proofs.Check.Designating
import SourceCheck.Proofs.Registry.LoweredSuffix

/-!
# How the name of a file is passed on

The text that a check is given for a file may start like an option, or hold anything else.  It is
resolved before it is used, so the tool sees an absolute path, behind fixed words that the suffix
and the project decide.  The path is told apart from everything else the tool is given; only a
directory that has a suffix of Python and is the given project root as well is told twice.  All
other paths are absolute too, except that of the scratch directory, which is where the system has
its temporary files.

* `Scratch.Temporary`: scratch directories as the system makes them.
* `Engine.called`: the commands that a check gives to the runner.
* `Engine.Prepares`, `Engine.mem_called_iff`: where they come from.
* `Engine.Prepares.sibling`: checks of two files in one directory.
* `Engine.passed_names`: what the arguments are.
-/

namespace SourceCheck

/-! ## 1. Scratch directories of the system -/

namespace Scratch

variable {τ : Type} {name : String} {p : Path} {c : Char}

/-- **A name that the system gives to a scratch directory**: eight letters, digits and low lines
behind a fixed beginning. -/
def IsName (name : String) : Prop :=
  ∃ letters : List Char, letters.length = 8 ∧
    (∀ c ∈ letters, (c.isLower || c.isDigit || c == '_') = true) ∧
    name = "polycheck-" ++ String.ofList letters

/-- **The path of a scratch directory**: its directory is absolute, or the one in which the program
runs. -/
structure IsPlace (p : Path) : Prop where
  above : p.parent.isAbsolute = true ∨ p.parent = ⟨.relative, []⟩
  legible : p.parent.Legible
  named : ∃ name, IsName name ∧ p.parts = p.parent.parts ++ [name]

/-- **Scratch directories as the system makes them** among its temporary files. -/
def Temporary (s : Scratch τ) : Prop := ∀ w p, s.make.outcome w = .ok p → IsPlace p

/-- What is not in the fixed beginning, and no letter, digit or low line, is not in the name. -/
theorem IsName.notMem (h : IsName name) (hword : c ∉ "polycheck-".toList)
    (hc : (c.isLower || c.isDigit || c == '_') = false) : c ∉ name.toList := by
  obtain ⟨letters, -, hletters, rfl⟩ := h
  have hlist : (String.ofList letters).toList = letters := String.toList_ofList
  rw [String.toList_append, hlist, List.mem_append, not_or]
  refine ⟨hword, fun hmem => ?_⟩
  cases (hletters c hmem).symm.trans hc

theorem IsName.isPart (h : IsName name) : Path.isPart name = true := by
  obtain ⟨letters, -, -, rfl⟩ := h
  rw [← String.ofList_toList (s := "polycheck-" ++ String.ofList letters)]
  refine Path.isPart_ofList ?_
  rw [String.toList_append, List.length_append]
  exact Nat.le_add_right_of_le (by decide)

theorem IsPlace.isLegible (h : IsPlace p) : p.Legible := by
  obtain ⟨name, hname, hparts⟩ := h.named
  rw [Path.Legible, hparts]
  refine List.forall_mem_append.mpr ⟨h.legible, List.forall_mem_singleton.mpr ⟨hname.isPart, ?_⟩⟩
  exact hname.notMem (by decide) (by decide)

theorem IsPlace.suffix_eq (h : IsPlace p) : p.suffix = "" := by
  obtain ⟨name, hname, hparts⟩ := h.named
  refine Path.suffix_of_no_dot ?_
  rw [Path.name, hparts, List.getLast?_concat, Option.getD_some]
  exact hname.notMem (by decide) (by decide)

/-- A scratch directory that is not absolute is told by its name alone. -/
theorem IsPlace.isAbsolute_or (h : IsPlace p) :
    p.isAbsolute = true ∨ ∃ name, IsName name ∧ p = ⟨.relative, [name]⟩ := by
  rcases h.above with habsolute | hhere
  · exact .inl habsolute
  · obtain ⟨name, hname, hparts⟩ := h.named
    have hanchor : p.anchor = .relative := congrArg Path.anchor hhere
    rw [hhere, List.nil_append] at hparts
    exact .inr ⟨name, hname, congr (congrArg Path.mk hanchor) hparts⟩

theorem isName_numbered (n : Nat) : IsName ("polycheck-" ++ eightDigits n) := by
  refine ⟨_, ?_, ?_, rfl⟩
  · have hlength : (Nat.toDigits 10 (n % Nat.pow 10 8)).length ≤ 8 :=
      (Nat.length_toDigits_le_iff (by decide) (by decide)).mpr (Nat.mod_lt _ (by decide))
    rw [List.length_append, List.length_replicate]
    omega
  · intro c hc
    rcases List.mem_append.mp hc with hc | hc
    · rw [List.eq_of_mem_replicate hc]
      decide
    · rw [Nat.isDigit_of_mem_toDigits (by decide) (by decide) hc]
      simp

theorem exists_numbered (t : FileTree) : ∃ n, fresh t = numbered n := by
  rw [fresh]
  cases hfind : ((List.range (t.entries.length + 1)).map numbered).find?
      (fun l => (t.lookup l).isNone) with
  | none => exact ⟨0, rfl⟩
  | some l =>
    obtain ⟨n, -, rfl⟩ := List.mem_map.mp (List.mem_of_find?_eq_some hfind)
    exact ⟨n, rfl⟩

theorem temporary_standard : (standard : Scratch τ).Temporary := by
  intro w p hp
  obtain ⟨n, hn⟩ := exists_numbered w.machine.files
  have hplace : p = Path.ofLocation (numbered n) := by
    rw [← hn]
    exact (Except.ok.inj hp).symm
  rw [hplace]
  exact ⟨.inl rfl, List.forall_mem_singleton.mpr (by decide), _, isName_numbered n, rfl⟩

end Scratch

namespace Engine

variable {τ : Type} {e : Engine τ} {b : Builtin} {x : CheckContext} {l : Language}
  {argument argument' file file' root : Path} {given : Option Path} {w : World τ} {c : Command}

/-! ## 2. Commands and what they are made of -/

/-- **The commands that a check gives to the runner.** -/
def called (e : Engine τ) (argument : Path) (given : Option Path) (w : World τ) : List Command :=
  ((e.check argument given).runIn w .empty).2.2.commands

/-- **A check of a file of a language that comes along**, as far as the making of its command: the
file was located, the project root, the tool and the scratch directory are there, and it is known
whether the project configures the tool. -/
structure Prepares (e : Engine τ) (argument : Path) (given : Option Path) (w : World τ)
    (b : Builtin) (x : CheckContext) : Prop where
  located : locate w.machine argument = .ok x.file
  prepared : e.Prepared b.language x.file given w x.root x.tool x.scratch
  configured : (e.commandWorld b.language x.file given w).machine.holdsAny x.root b.markers =
    .ok x.configured

/-- The command of such a check. -/
def commandOf (e : Engine τ) (b : Builtin) (x : CheckContext) : Command :=
  ⟨x.tool :: b.arguments x, some x.root, none, some e.settings.timeout⟩

/-- A check whose command is written gives it to the runner, and no other. -/
theorem called_of_written {tool : String} {scratch : Path}
    (hfile : locate w.machine argument = .ok file)
    (h : e.Prepared l file given w root tool scratch)
    (hc : (e.command l file root tool scratch).outcome (e.commandWorld l file given w) = .ok c) :
    e.called argument given w = [c] := by
  rw [called, runIn_check_of_prepared hfile h hc]
  exact commands_answered ..

section

variable (hregistry : e.registry = Builtin.registry) (hbackend : e.backend = Builtin.backendOf)

include hbackend in
/-- What the command of a language that comes along is made of. -/
theorem outcome_command_iff {tool : String} {scratch : Path} {w : World τ} :
    (e.command b.language file root tool scratch).outcome w = .ok c ↔
      ∃ configured, w.machine.holdsAny root b.markers = .ok configured ∧
        c = e.commandOf b ⟨file, root, tool, configured, scratch⟩ := by
  have hdetect : ((Builtin.backend b : Backend τ).detect root).outcome w =
      w.machine.holdsAny root b.markers :=
    Action.outcome_ask ..
  rw [outcome_command_eq_ok_iff, hbackend, Builtin.backendOf_language, hdetect]
  constructor
  · rintro ⟨configured, arguments, hconfigured, harguments, rfl⟩
    obtain rfl := Except.ok.inj harguments
    exact ⟨configured, hconfigured, rfl⟩
  · rintro ⟨configured, hconfigured, rfl⟩
    exact ⟨configured, _, hconfigured, rfl, rfl⟩

include hbackend in
theorem Prepares.called_eq (h : e.Prepares argument given w b x) :
    e.called argument given w = [e.commandOf b x] :=
  called_of_written h.located h.prepared
    ((outcome_command_iff hbackend).mpr ⟨x.configured, h.configured, rfl⟩)

include hregistry hbackend in
/-- **The commands of a check** with the languages that come along. -/
theorem mem_called_iff : c ∈ e.called argument given w ↔
    ∃ b x, e.Prepares argument given w b x ∧ c = e.commandOf b x := by
  constructor
  · intro hc
    rw [called] at hc
    generalize hrun : (e.check argument given).runIn w .empty = run at hc
    obtain ⟨r, w', t⟩ := run
    obtain ⟨l, file, root, tool, scratch, hfile, hprepared, hwritten⟩ := prepared_of_called hrun hc
    have hresolve := hprepared.resolved
    rw [hregistry] at hresolve
    obtain ⟨b, rfl, -⟩ := Builtin.suffix_of_resolve hresolve
    obtain ⟨configured, hconfigured, rfl⟩ := (outcome_command_iff hbackend).mp hwritten
    exact ⟨b, ⟨file, root, tool, configured, scratch⟩, ⟨hfile, hprepared, hconfigured⟩, rfl⟩
  · rintro ⟨b, x, h, rfl⟩
    rw [h.called_eq hbackend]
    exact List.mem_singleton.mpr rfl

end

/-! ## 3. What the command is told apart from -/

/-- The file that configures the TypeScript compiler has a suffix of its own. -/
theorem suffix_project (root : Path) : (root.child "tsconfig.json").suffix = ".json" := by
  have hname : (root.child "tsconfig.json").name = "tsconfig.json" := by
    have hchild : root.child "tsconfig.json" = ⟨root.anchor, root.parts ++ ["tsconfig.json"]⟩ := rfl
    rw [hchild, Path.name, List.getLast?_concat, Option.getD_some]
  rw [Path.suffix, hname]
  rfl

theorem extensions_apart (b : Builtin) :
    Text.lowered "" ∉ b.language.extensions ∧ Text.lowered ".json" ∉ b.language.extensions := by
  cases b <;> decide

/-- A project root that is searched for stands above the file. -/
theorem ne_of_findRoot {detect : Path → Action τ Bool} (hparts : file.parts ≠ [])
    (h : (Project.findRoot detect file).outcome w = .ok root) : root ≠ file := by
  have hlength : root.parts.length ≤ file.parent.parts.length := by
    rcases mem_of_firstRoot h with rfl | hmem
    · exact Nat.le_refl _
    · exact Path.length_of_mem_upward hmem
  have hparent : file.parent.parts.length < file.parts.length := by
    rw [Path.parent, List.length_dropLast]
    exact Nat.sub_lt (List.length_pos_iff.mpr hparts) Nat.one_pos
  rintro rfl
  omega

namespace Prepares

/-- The suffix of the file is one of those of its language. -/
theorem suffix (h : e.Prepares argument given w b x) (hregistry : e.registry = Builtin.registry) :
    Text.lowered x.file.suffix ∈ b.language.extensions := by
  have hresolve := h.prepared.resolved
  rw [hregistry] at hresolve
  obtain ⟨b', hb, hsuffix⟩ := Builtin.suffix_of_resolve hresolve
  rwa [Builtin.language_injective hb]

theorem isPlace (h : e.Prepares argument given w b x) (hscratch : e.scratch.Temporary) :
    Scratch.IsPlace x.scratch :=
  hscratch _ _ h.prepared.scratch_made

/-- **The paths that a check hands on** are absolute but for the scratch directory, and the file is
told apart from the others. -/
theorem apart (h : e.Prepares argument given w b x) (hregistry : e.registry = Builtin.registry)
    (hscratch : e.scratch.Temporary)
    (hworking : Machine.Slashless w.machine.workingDirectory) (hargument : argument.Legible)
    (hgiven : ∀ p, given = some p → p.Legible) : Builtin.Apart x where
  file := file_of_locate hworking hargument h.located
  root := by
    obtain ⟨hlegible, habsolute⟩ := file_of_locate hworking hargument h.located
    exact root_of_detection hworking hgiven hlegible habsolute h.prepared.root_found
  scratch := (h.isPlace hscratch).isLegible
  notScratch := by
    intro heq
    have hsuffix := h.suffix hregistry
    rw [heq, (h.isPlace hscratch).suffix_eq] at hsuffix
    exact (extensions_apart b).1 hsuffix
  notProject := by
    intro heq
    have hsuffix := h.suffix hregistry
    rw [heq, suffix_project] at hsuffix
    exact (extensions_apart b).2 hsuffix

/-- **A project root that is the file itself** was given, and is a directory. -/
theorem given_of_root_eq (h : e.Prepares argument given w b x)
    (hregistry : e.registry = Builtin.registry) (heq : x.root = x.file) :
    ∃ p, given = some p ∧ w.machine.isDirectory? p = .ok true ∧
      w.machine.resolve p = .ok x.file := by
  have hparts : x.file.parts ≠ [] := by
    intro hnil
    have hsuffix := h.suffix hregistry
    have hnone : x.file.suffix = "" := by
      refine Path.suffix_of_no_dot ?_
      rw [Path.name, hnil]
      decide
    rw [hnone] at hsuffix
    exact (extensions_apart b).1 hsuffix
  have hfound := h.prepared.root_found
  rw [heq] at hfound
  unfold detection rootFor at hfound
  cases given with
  | none => exact absurd rfl (ne_of_findRoot hparts hfound)
  | some p =>
    dsimp only at hfound
    rw [Action.outcome_bind, Action.outcome_ask, Action.final_ask] at hfound
    cases hdirectory : w.machine.isDirectory? p with
    | error f =>
      rw [hdirectory] at hfound
      cases hfound
    | ok there =>
      rw [hdirectory] at hfound
      cases there with
      | false => exact absurd rfl (ne_of_findRoot hparts hfound)
      | true =>
        exact ⟨p, rfl, hdirectory, (Action.outcome_ask (fun m => m.resolve p) w).symm.trans hfound⟩

/-- **The check of another file in the directory**, with the same suffix in lower case, comes to the
same root, tool and scratch directory. -/
theorem sibling (h : e.Prepares argument given w b x) (hregistry : e.registry = Builtin.registry)
    (hfile : locate w.machine argument' = .ok file) (hparent : x.file.parent = file.parent)
    (hsuffix : Text.lowered x.file.suffix = Text.lowered file.suffix) :
    e.Prepares argument' given w b { x with file := file } := by
  have hdetection : e.detection b.language file given = e.detection b.language x.file given := by
    unfold detection rootFor Project.findRoot
    rw [hparent]
  have hlookup :
      e.lookupWorld b.language file given w = e.lookupWorld b.language x.file given w := by
    rw [lookupWorld, hdetection, lookupWorld]
  have hworld :
      e.commandWorld b.language file given w = e.commandWorld b.language x.file given w := by
    rw [commandWorld, hlookup, commandWorld]
  have hresolved : e.registry.resolve file = some b.language := by
    rw [hregistry]
    exact Builtin.resolve_of_suffix (hsuffix ▸ h.suffix hregistry)
  have htooled : e.Tooled b.language file given w x.root x.tool :=
    ⟨⟨hresolved, h.prepared.enabled⟩, hdetection ▸ h.prepared.root_found,
      hlookup ▸ h.prepared.tool_found⟩
  exact ⟨hfile, ⟨htooled, hlookup ▸ h.prepared.scratch_made⟩, hworld ▸ h.configured⟩

end Prepares

/-! ## 4. What the arguments are -/

/-- **No name is an option.**  The working directory and the given root are well-formed, the
languages are those that come along, and the scratch directory is made by the system.  Then the
arguments of every command that a check gives to the runner, whatever text it was given for the
file, are placed as `Builtin.Placed` says: fixed words, absolute paths, and the scratch directory,
which is absolute as well unless the system has its temporary files in the working directory, and
then told by its name.  The file is last and nowhere else, unless the root is the file; and such a
root was given. A check of another file in the same directory, with the same suffix in lower case,
and neither named like a Rust library, gives the runner the same command, but for the file at its
end. -/
theorem passed_names (hregistry : e.registry = Builtin.registry)
    (hbackend : e.backend = Builtin.backendOf) (hscratch : e.scratch.Temporary)
    (hworking : Machine.Slashless w.machine.workingDirectory)
    (hgiven : ∀ p, given = some p → p.Legible) :
    (∀ text, ∀ c ∈ e.called (.ofString text) given w, ∃ b x arguments,
      e.Prepares (.ofString text) given w b x ∧ c.arguments = x.tool :: arguments ∧
      b.Placed x arguments ∧
      (x.scratch.isAbsolute = true ∨
        ∃ name, Scratch.IsName name ∧ x.scratch = ⟨.relative, [name]⟩) ∧
      (x.root = x.file → ∃ p, given = some p ∧ w.machine.isDirectory? p = .ok true ∧
        w.machine.resolve p = .ok x.file)) ∧
    ∀ text text' file file', locate w.machine (.ofString text) = .ok file →
      locate w.machine (.ofString text') = .ok file' → file.parent = file'.parent →
      Text.lowered file.suffix = Text.lowered file'.suffix →
      file.name ∉ Builtin.rustLibraryNames → file'.name ∉ Builtin.rustLibraryNames →
      ∀ c ∈ e.called (.ofString text) given w, ∃ front last, c.arguments = front ++ [last] ∧
        e.called (.ofString text') given w =
          [{ c with arguments := front ++ [if last = file.text then file'.text else last] }] := by
  constructor
  · intro text c hc
    obtain ⟨b, x, h, rfl⟩ := (mem_called_iff hregistry hbackend).mp hc
    have hapart := h.apart hregistry hscratch hworking (Path.legible_ofString text) hgiven
    exact ⟨b, x, _, h, rfl, Builtin.placed_arguments hapart b, (h.isPlace hscratch).isAbsolute_or,
      h.given_of_root_eq hregistry⟩
  · intro text text' file file' hfile hfile' hparent hsuffix hname hname' c hc
    obtain ⟨b, x, h, rfl⟩ := (mem_called_iff hregistry hbackend).mp hc
    obtain rfl := Except.ok.inj (hfile.symm.trans h.located)
    have hapart := h.apart hregistry hscratch hworking (Path.legible_ofString text) hgiven
    obtain ⟨front, last, harguments, harguments'⟩ :=
      Builtin.arguments_of_file hapart hsuffix hname hname' b
    refine ⟨x.tool :: front, last, ?_, ?_⟩
    · rw [commandOf, harguments]
      rfl
    · rw [(h.sibling hregistry hfile' hparent hsuffix).called_eq hbackend, commandOf, harguments']
      rfl

/-- An engine for the languages that come along. -/
def builtinEngine : Engine Unit where
  settings := .default
  registry := Builtin.registry
  backend := Builtin.backendOf
  runner := contentRunner

theorem registry_builtinEngine : builtinEngine.registry = Builtin.registry := by
  rw [builtinEngine]

/-- A configured project with files whose names start like options. -/
def dashedWorld : World Unit :=
  ⟨{ files := ⟨[(["p"], .directory 0o755), (["p", "-x.py"], .file 0o644 []),
       (["p", "@y.PY"], .file 0o644 []), (["p", "pyproject.toml"], .file 0o644 []),
       (["bin"], .directory 0o755), (["bin", "pyright"], shell)]⟩
     workingDirectory := ["p"]
     environment := [("PATH", "/bin")] }, ()⟩

/-- What the check of one of the files there comes to. -/
def dashedContext : CheckContext :=
  ⟨⟨.root, ["p", "-x.py"]⟩, ⟨.root, ["p"]⟩, "/bin/pyright", true,
    .ofLocation (Scratch.numbered 0)⟩

theorem prepares_dashed :
    builtinEngine.Prepares (.ofString "-x.py") none dashedWorld .python dashedContext where
  located := by decide
  prepared := by
    refine ⟨⟨⟨?_, by decide⟩, rfl, rfl⟩, rfl⟩
    rw [registry_builtinEngine]
    exact Builtin.resolve_of_suffix (by decide)
  configured := by decide

/-- The command that checks a file there. -/
def dashedCommand (path : String) : Command :=
  ⟨["/bin/pyright", "--outputjson", "--project", "/p", path], some ⟨.root, ["p"]⟩, none,
    some Settings.default.timeout⟩

theorem passed_names_dashed :
    builtinEngine.scratch.Temporary ∧
    Machine.Slashless dashedWorld.machine.workingDirectory ∧
    dashedCommand "/p/-x.py" ∈ builtinEngine.called (.ofString "-x.py") none dashedWorld ∧
    (∃ b x arguments, builtinEngine.Prepares (.ofString "-x.py") none dashedWorld b x ∧
      (dashedCommand "/p/-x.py").arguments = x.tool :: arguments ∧ b.Placed x arguments) ∧
    builtinEngine.called (.ofString "@y.PY") none dashedWorld = [dashedCommand "/p/@y.PY"] := by
  have hworking : Machine.Slashless dashedWorld.machine.workingDirectory :=
    List.forall_mem_singleton.mpr (by decide)
  have hgiven : ∀ p, (none : Option Path) = some p → p.Legible := nofun
  have hc : dashedCommand "/p/-x.py" ∈
      builtinEngine.called (.ofString "-x.py") none dashedWorld := by
    rw [prepares_dashed.called_eq rfl]
    exact List.mem_singleton.mpr rfl
  have hfile : locate dashedWorld.machine (.ofString "-x.py") = .ok ⟨.root, ["p", "-x.py"]⟩ := by
    decide
  have hfile' : locate dashedWorld.machine (.ofString "@y.PY") = .ok ⟨.root, ["p", "@y.PY"]⟩ := by
    decide
  obtain ⟨hplaced, hsibling⟩ :=
    passed_names (e := builtinEngine) registry_builtinEngine rfl Scratch.temporary_standard
      hworking hgiven
  obtain ⟨b, x, arguments, h, harguments, hplaced, -⟩ := hplaced _ _ hc
  obtain ⟨front, last, hcut, hcalled⟩ := hsibling _ _ _ _ hfile hfile' rfl (by decide +kernel)
    (by decide) (by decide) _ hc
  have hends : ["/bin/pyright", "--outputjson", "--project", "/p"] ++ ["/p/-x.py"] =
      front ++ [last] := hcut
  obtain ⟨rfl, hlast⟩ := List.append_inj' hends rfl
  obtain rfl := List.singleton_inj.mp hlast
  rw [if_pos (by decide)] at hcalled
  exact ⟨Scratch.temporary_standard, hworking, hc, ⟨b, x, arguments, h, harguments, hplaced⟩, hcalled⟩

/-- A directory that has a suffix of Python and configures the tool. -/
def itselfWorld : World Unit :=
  ⟨{ files := ⟨[(["p.py"], .directory 0o755), (["p.py", "pyproject.toml"], .file 0o644 []),
       (["bin"], .directory 0o755), (["bin", "pyright"], shell)]⟩
     environment := [("PATH", "/bin")] }, ()⟩

/-- What the check of the directory comes to, if it is the given root as well. -/
def itselfContext : CheckContext :=
  ⟨⟨.root, ["p.py"]⟩, ⟨.root, ["p.py"]⟩, "/bin/pyright", true,
    .ofLocation (Scratch.numbered 0)⟩

theorem prepares_itself : builtinEngine.Prepares (.ofString "p.py") (some (.ofString "p.py"))
    itselfWorld .python itselfContext where
  located := by decide
  prepared := by
    refine ⟨⟨⟨?_, by decide⟩, rfl, rfl⟩, rfl⟩
    rw [registry_builtinEngine]
    exact Builtin.resolve_of_suffix (by decide)
  configured := by decide

/-- An engine with scratch directories in the directory that the program runs in. -/
def hereEngine : Engine Unit :=
  { builtinEngine with
    scratch :=
      { make := pure ⟨.relative, ["polycheck-" ++ Scratch.eightDigits 0]⟩
        remove := fun _ => pure () } }

theorem temporary_hereEngine : hereEngine.scratch.Temporary := by
  intro w p hp
  obtain rfl := Except.ok.inj hp
  exact ⟨.inr rfl, List.forall_mem_nil _, _, Scratch.isName_numbered 0, rfl⟩

/-- A world with a file whose tool writes into the scratch directory. -/
def writtenWorld : World Unit :=
  ⟨{ files := ⟨[(["a.java"], .file 0o644 []), (["bin"], .directory 0o755),
       (["bin", "javac"], shell)]⟩
     environment := [("PATH", "/bin")] }, ()⟩

/-- What the check of the file comes to with such a scratch directory. -/
def writtenContext : CheckContext :=
  ⟨⟨.root, ["a.java"]⟩, ⟨.root, []⟩, "/bin/javac", false,
    ⟨.relative, ["polycheck-" ++ Scratch.eightDigits 0]⟩⟩

theorem prepares_written : hereEngine.Prepares (.ofString "a.java") none writtenWorld .java
    writtenContext where
  located := by decide
  prepared := by
    have hregistry : hereEngine.registry = Builtin.registry := by rw [hereEngine, builtinEngine]
    refine ⟨⟨⟨?_, by decide⟩, rfl, rfl⟩, rfl⟩
    rw [hregistry]
    exact Builtin.resolve_of_suffix (by decide)
  configured := by decide

/-- **Not every file is told once**: a directory that is checked with itself for the root is told
twice.  And not every path is absolute: the scratch directory need not be. -/
theorem exists_told_twice :
    (¬ ∀ (e : Engine Unit) (given : Option Path) (w : World Unit) (text : String),
      e.registry = Builtin.registry → e.backend = Builtin.backendOf → e.scratch.Temporary →
      Machine.Slashless w.machine.workingDirectory → (∀ p, given = some p → p.Legible) →
      ∀ c ∈ e.called (.ofString text) given w, ∀ b x,
        e.Prepares (.ofString text) given w b x → ¬ (b = .typeScript ∧ x.configured = true) →
        c.arguments.tail.count x.file.text = 1) ∧
    ¬ ∀ (e : Engine Unit) (given : Option Path) (w : World Unit) (text : String),
      e.registry = Builtin.registry → e.backend = Builtin.backendOf → e.scratch.Temporary →
      Machine.Slashless w.machine.workingDirectory → (∀ p, given = some p → p.Legible) →
      ∀ c ∈ e.called (.ofString text) given w, ∀ b x,
        e.Prepares (.ofString text) given w b x →
        ∀ a ∈ c.arguments.tail, a ∈ b.fixedWords ∨ a.toList.head? = some '/' := by
  constructor
  · intro hall
    have hgiven : ∀ p, some (Path.ofString "p.py") = some p → p.Legible := by
      rintro p hp
      exact Option.some.inj hp ▸ Path.legible_ofString "p.py"
    have hc : builtinEngine.commandOf .python itselfContext ∈
        builtinEngine.called (.ofString "p.py") (some (.ofString "p.py")) itselfWorld := by
      rw [prepares_itself.called_eq rfl]
      exact List.mem_singleton.mpr rfl
    have hclaimed := hall builtinEngine _ itselfWorld "p.py" registry_builtinEngine rfl
      Scratch.temporary_standard (fun _ => nofun) hgiven _ hc _ _ prepares_itself (by decide)
    exact absurd hclaimed (by decide)
  · intro hall
    have hregistry : hereEngine.registry = Builtin.registry := by rw [hereEngine, builtinEngine]
    have hc : hereEngine.commandOf .java writtenContext ∈
        hereEngine.called (.ofString "a.java") none writtenWorld := by
      rw [prepares_written.called_eq rfl]
      exact List.mem_singleton.mpr rfl
    have hclaimed := hall hereEngine none writtenWorld "a.java" hregistry rfl temporary_hereEngine
      (fun _ => nofun) (fun _ => nofun) _ hc _ _ prepares_written
    exact absurd hclaimed (by decide)

end Engine

end SourceCheck
