import SourceCheck.Registry

/-!
# The languages that come along

Twelve languages are known from the start.  Their table gives what a `Language` records; the names
of the files that configure a tool stand beside it.
-/

namespace SourceCheck

/-- **The languages that come along.** -/
inductive Builtin
  | typeScript
  | python
  | go
  | rust
  | java
  | cpp
  | php
  | scala
  | lua
  | elixir
  | terraform
  | zig
  deriving DecidableEq, Repr

namespace Builtin

/-- All of them, in the order of registration. -/
def all : List Builtin :=
  [typeScript, python, go, rust, java, cpp, php, scala, lua, elixir, terraform, zig]

/-- What most tools are asked to find out whether they are there. -/
def askVersion : List String := ["--version"]

/-- **What is known about each language.** -/
def language : Builtin → Language
  | typeScript =>
    { key := 0, name := "TypeScript", code := "typescript", flag := "TypeScript", tool := "tsc"
      extensions := [".ts", ".tsx", ".mts", ".cts"], localPaths := ["node_modules/.bin/tsc"]
      versionArguments := askVersion, installHint := "npm install -g typescript" }
  | python =>
    { key := 1, name := "Python", code := "python", flag := "Python", tool := "pyright"
      extensions := [".py", ".pyw"]
      localPaths := ["node_modules/.bin/pyright", ".venv/bin/pyright", "venv/bin/pyright"]
      versionArguments := askVersion, installHint := "npm install -g pyright" }
  | go =>
    { key := 2, name := "Go", code := "go", flag := "Go", tool := "go", extensions := [".go"]
      localPaths := [], versionArguments := ["version"]
      installHint := "Install Go from https://golang.org" }
  | rust =>
    { key := 3, name := "Rust", code := "rust", flag := "Rust", tool := "rustc"
      extensions := [".rs"], localPaths := [], versionArguments := askVersion
      installHint := "Install Rust from https://rustup.rs" }
  | java =>
    { key := 4, name := "Java", code := "java", flag := "Java", tool := "javac"
      extensions := [".java"], localPaths := [], versionArguments := ["-version"]
      installHint := "Install Java JDK" }
  | cpp =>
    { key := 5, name := "C/C++", code := "cpp", flag := "Cpp", tool := "gcc"
      extensions :=
        [".c", ".h", ".cpp", ".cc", ".cxx", ".c++", ".hpp", ".hh", ".hxx", ".h++"]
      localPaths := [], versionArguments := askVersion, installHint := "Install GCC or Clang" }
  | php =>
    { key := 6, name := "PHP", code := "php", flag := "Php", tool := "php"
      extensions := [".php"], localPaths := ["vendor/bin/php"], versionArguments := askVersion
      installHint := "Install PHP" }
  | scala =>
    { key := 7, name := "Scala", code := "scala", flag := "Scala", tool := "scalac"
      extensions := [".scala", ".sc"], localPaths := [], versionArguments := ["-version"]
      installHint := "Install Scala" }
  | lua =>
    { key := 8, name := "Lua", code := "lua", flag := "Lua", tool := "luac"
      extensions := [".lua"], localPaths := [], versionArguments := ["-v"]
      installHint := "Install Lua" }
  | elixir =>
    { key := 9, name := "Elixir", code := "elixir", flag := "Elixir", tool := "elixir"
      extensions := [".ex", ".exs"], localPaths := [], versionArguments := askVersion
      installHint := "Install Elixir" }
  | terraform =>
    { key := 10, name := "Terraform", code := "terraform", flag := "Terraform"
      tool := "terraform", extensions := [".tf", ".tfvars"], localPaths := []
      versionArguments := ["version"], installHint := "Install Terraform" }
  | zig =>
    { key := 11, name := "Zig", code := "zig", flag := "Zig", tool := "zig"
      extensions := [".zig"], localPaths := [], versionArguments := ["version"]
      installHint := "Install Zig from https://ziglang.org" }

/-- **The files that configure a language's tool.** -/
def markers : Builtin → List String
  | typeScript => ["tsconfig.json"]
  | python => ["pyrightconfig.json", "pyproject.toml"]
  | go => ["go.mod"]
  | rust => ["Cargo.toml"]
  | java => ["pom.xml", "build.gradle", "build.gradle.kts"]
  | cpp => ["CMakeLists.txt", "compile_commands.json", "Makefile"]
  | php => ["composer.json"]
  | scala => ["build.sbt", "build.sc"]
  | lua => [".luacheckrc"]
  | elixir => ["mix.exs"]
  | terraform => [".terraform", ".terraform.lock.hcl"]
  | zig => ["build.zig"]

/-- The language of the table that is the given one. -/
def ofLanguage? (l : Language) : Option Builtin := all.find? fun b => b.language == l

/-- **The registry with the languages that come along.** -/
def registry : Registry := Registry.ofLanguages (all.map language)

theorem mem_all (b : Builtin) : b ∈ all := by cases b <;> decide

/-- The keys tell the languages apart. -/
theorem language_injective {a b : Builtin} (h : a.language = b.language) : a = b := by
  have hk : a.language.key = b.language.key := congrArg Language.key h
  revert hk
  cases a <;> cases b <;> simp [language]

end Builtin

end SourceCheck
