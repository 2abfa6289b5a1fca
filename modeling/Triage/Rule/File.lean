import Triage.Rule.Definition
import Triage.Yaml.Document
import Triage.Yaml.Writer

namespace Triage
namespace Rule

/-!
Rules in files.

A file holds one definition.  A written rule leaves out what running it leaves behind, but
keeps the instant of its creation, by which rules are ordered.
-/

namespace File

/-- The definition of a rule as a file holds it. -/
def definition (rule : Rule) : Value :=
  .record (rule.definitionEntries ++ [("created_at", .text rule.createdAt.text)])

/-- The text of a rule's file. -/
def text (rule : Rule) : String := Yaml.Writer.document (definition rule)

/-- Reads the rule that the text of a file defines. -/
def read (now : Instant) (path text : String) : Except Failure Rule :=
  match Yaml.Document.read text with
  | .error .malformed => .error (Definition.complaint "Invalid YAML syntax")
  | .error (.failed failure) => .error failure
  | .ok value =>
      if value.isTruthy then Definition.read now value
      else .error (Definition.complaint ("Empty YAML file: " ++ path))

/-- Reads the rule of a file that may be missing. -/
def readAt (now : Instant) (path : String) (text : Option String) : Except Failure Rule :=
  match text with
  | some text => read now path text
  | none => .error (Definition.complaint ("Rule file not found: " ++ path))

end File

/-- The files of a directory, as relative names with their texts. -/
abbrev Directory := List (String × String)

namespace Directory

/-- Whether a file of the directory itself can hold a rule, going by its name. -/
def isRuleFile (name : String) : Bool :=
  let cs := name.toList
  !cs.contains '/' && (".yaml".toList.isSuffixOf cs || ".yml".toList.isSuffixOf cs)

/-- The files that can hold rules, in the order of their names. -/
def ruleFiles (files : Directory) : Directory :=
  (files.filter fun file => isRuleFile file.1).mergeSort fun a b => !(b.1 < a.1)

/-- Reads one file after another; a definition that is refused leaves its file out. -/
def readFiles (now : Instant) (path : String) : Directory -> Except Failure (List Rule)
  | [] => .ok []
  | file :: files =>
      match File.read now (path ++ "/" ++ file.1) file.2 with
      | .ok rule => do pure (rule :: (<- readFiles now path files))
      | .error failure =>
          if failure.isOf .ruleDefinition then readFiles now path files else .error failure

/-- Reads the rules of a directory that may be missing. -/
def read (now : Instant) (path : String) (files : Option Directory) :
    Except Failure (List Rule) :=
  match files with
  | some files => readFiles now path files.ruleFiles
  | none => .error (Definition.complaint ("Directory not found: " ++ path))

end Directory
end Rule
end Triage
