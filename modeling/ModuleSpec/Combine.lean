import ModuleSpec.Build
import ModuleSpec.Concrete.Reading
import ModuleSpec.Discovery
import ModuleSpec.Schema.Document

/-!
# Combining modules

The schemas of all candidates among the collected files, merged into one
document under the names of their modules.  Each file is built by itself, and a
file that cannot be built does not keep the others from being built.  The first
file of a module that has a schema gives it, unless the module is left out on
the platform that is asked for.

The grammar of the source language is a parameter: it gives a concrete tree to
every text.  So is the syntax of the patterns of paths, which gives a pattern to the
texts that are written for one.
-/

namespace ModuleSpec

/-- What gives a concrete tree to a source text. -/
abbrev Grammar := Dialect → String → Concrete.Node

/-- Why a file has no schema. -/
inductive BuildFailure
  | unknownDialect (name : String)
  | unreadable (e : Concrete.Failure)
  | halted (h : Halt)

namespace BuildFailure

/-- The fault that a failure is, if it is one. -/
def fault? : BuildFailure → Option Fault
  | halted (.fault f) => some f
  | _ => none

/-- The failure in words. -/
def message : BuildFailure → String
  | unknownDialect name => Dialect.unknown name
  | unreadable .childMissing => "list index out of range"
  | unreadable (.badText e) => e.message
  | unreadable (.badNumeral e) => e.message
  | halted (.fault f) => f.message
  | halted .emptyUnion => "list index out of range"
  | halted .endless => "maximum recursion depth exceeded"

end BuildFailure

/-- What came of one file. -/
structure FileResult where
  path : String
  moduleName : String
  outcome : Except BuildFailure Built

/-- Something worth a warning. -/
inductive Notice
  | buildFailed
      (path : String)
  | duplicateModule
      (name path : String)
  deriving DecidableEq, Repr

namespace Notice

def message : Notice → String
  | buildFailed path => s!"Failed to build schema for {path}, skipping"
  | duplicateModule name path =>
      s!"Duplicate module {name} in {path}, keeping the first definition"

end Notice

namespace FileResult

def ok (r : FileResult) : Bool :=
  match r.outcome with
  | .ok _ => true
  | .error _ => false

def schema? (r : FileResult) : Option Schema :=
  match r.outcome with
  | .ok built => some built.schema
  | .error _ => none

def failure? (r : FileResult) : Option BuildFailure :=
  match r.outcome with
  | .ok _ => none
  | .error e => some e

/-- The faults that were recorded while the file was built. -/
def faults (r : FileResult) : List Fault :=
  match r.outcome with
  | .ok built => built.faults
  | .error _ => []

/-- A failure that is no fault is worth a warning. -/
def notices (r : FileResult) : List Notice :=
  match r.failure? with
  | none => []
  | some e => if e.fault?.isSome then [] else [.buildFailed r.path]

end FileResult

/-- The schema of a text. -/
def buildText
    (grammar : Grammar)
    (moduleName dialect content : String) :
    Except BuildFailure Built :=
  match Dialect.ofName? dialect with
  | none => .error (.unknownDialect dialect)
  | some d =>
      match (grammar d content).program (.ofString content) with
      | .error e => .error (.unreadable e)
      | .ok program => (buildSchema moduleName program).mapError .halted

/-- Builds the schema of one file. -/
def buildFile (grammar : Grammar) (f : SourceFile) : FileResult :=
  ⟨f.path, f.moduleName, buildText grammar f.moduleName f.dialect f.content⟩

/-- The schema of a module. -/
structure NamedSchema where
  name : String
  schema : Schema

/-- The modules of several files. -/
structure Combined where
  modules : List NamedSchema
  results : List FileResult
  notices : List Notice

/-- The modules merged so far, and the warnings that came up. -/
structure Merged where
  modules : List NamedSchema
  notices : List Notice

namespace Merged

def empty : Merged := ⟨[], []⟩

def contains (m : Merged) (name : String) : Bool :=
  m.modules.any fun n => n.name == name

/-- Takes in the result of one more file. -/
def add
    (platform : Option Platform)
    (m : Merged)
    (r : FileResult) :
    Merged :=
  match r.schema? with
  | none => m
  | some schema =>
      if platform.any schema.excludes then
        m
      else if m.contains r.moduleName then
        { m with notices := m.notices ++ [.duplicateModule r.moduleName r.path] }
      else
        { m with modules := m.modules ++ [⟨r.moduleName, schema⟩] }

def ofResults
    (platform : Option Platform)
    (results : List FileResult) :
    Merged :=
  results.foldl (add platform) empty

end Merged

namespace Combined

def failed (c : Combined) : List FileResult :=
  c.results.filter fun r => !r.ok

def faults (c : Combined) : List Fault :=
  c.results.flatMap FileResult.faults

def toJson (c : Combined) : Json :=
  .object [("modules", .object (c.modules.map fun n => (n.name, n.schema.toJson)))]

/-- The text of the schema document. -/
def document (c : Combined) : String :=
  c.toJson.render ++ "\n"

end Combined

/-- Why limits make no sense. -/
inductive LimitsError
  | unknownPlatform (name : String)
  | badExclude (message : String)
  deriving DecidableEq, Repr

/-- Why modules cannot be combined. -/
inductive CombineError
  | limits (e : LimitsError)
  | collect (e : CollectError)
  deriving DecidableEq, Repr

namespace Platform

/-- The message for a name that is no platform. -/
def unknown (name : String) : String :=
  Text.unknownWord "platform" name (all.map option)

end Platform

/-- What limits the modules that are combined. -/
structure Limits where
  platform : Option Platform
  exclude : Option PathPattern

namespace Limits

/-- The platform that is asked for. -/
def readPlatform : Option String → Except LimitsError (Option Platform)
  | none => .ok none
  | some name =>
      match Platform.ofOption? name with
      | none => .error (.unknownPlatform name)
      | some p => .ok (some p)

/-- The pattern of the paths that are left out. -/
def readExclude
    (patterns : PatternSyntax) :
    Option String → Except LimitsError (Option PathPattern)
  | none => .ok none
  | some text =>
      match patterns text with
      | .error message => .error (.badExclude message)
      | .ok occurs => .ok (some occurs)

/-- The limits that two options ask for. -/
def read
    (patterns : PatternSyntax)
    (platform exclude : Option String) :
    Except LimitsError Limits := do
  .ok ⟨← readPlatform platform, ← readExclude patterns exclude⟩

/-- The spec files that are wanted within the limits. -/
def selection (limits : Limits) : Selection :=
  ⟨limits.platform.map Platform.option, limits.exclude⟩

end Limits

/-- Combines the modules of files that have been read. -/
def combineFiles
    (grammar : Grammar)
    (platform : Option Platform)
    (files : List SourceFile) :
    Combined :=
  let results := (files.filter fun f => isCandidate f.content).map (buildFile grammar)
  let merged := Merged.ofResults platform results
  ⟨merged.modules, results, results.flatMap FileResult.notices ++ merged.notices⟩

/-- Combines the modules of the spec files under the given roots. -/
def combine
    (grammar : Grammar)
    (tree : FileTree)
    (roots : List Path)
    (limits : Limits) :
    Except CollectError Combined :=
  (tree.collect roots limits.selection).map (combineFiles grammar limits.platform)

/-- Combines the modules under the given roots, limited by two options. -/
def combineWith
    (grammar : Grammar)
    (patterns : PatternSyntax)
    (tree : FileTree)
    (roots : List Path)
    (platform exclude : Option String) :
    Except CombineError Combined := do
  let limits ← (Limits.read patterns platform exclude).mapError .limits
  (combine grammar tree roots limits).mapError .collect

end ModuleSpec
