import CodePlayground.Config.Basic
import CodePlayground.Sample.Cache

/-!
Reports of errors that end the program: a message and the chain of its causes. A single cause is
indented, several ones are numbered as well.
-/

namespace CodePlayground.CommandLine

structure Report where
  message : String
  causes : List String
  deriving DecidableEq, Repr

/-- The lines of a text, with blanks in front of all but the first. -/
def indented (blanks : String) (text : String) : String :=
  text.replace "\n" ("\n" ++ blanks)

def padLeft (width : Nat) (text : String) : String :=
  String.ofList (List.replicate (width - text.length) ' ') ++ text

namespace Report

def numbered (start : Nat) : List String → String
  | [] => ""
  | cause :: causes =>
    "\n" ++ padLeft 5 (toString start) ++ ": " ++ indented "       " cause ++
      numbered (start + 1) causes

def causeText : List String → String
  | [] => ""
  | [cause] => "\n\nCaused by:\n    " ++ indented "    " cause
  | causes => "\n\nCaused by:" ++ numbered 0 causes

def text (report : Report) : String :=
  "Error: " ++ report.message ++ causeText report.causes ++ "\n"

/-- Puts a report under a message of which it is the cause. -/
def under (report : Report) (message : String) : Report :=
  ⟨message, report.message :: report.causes⟩

def ofFault (fault : Fault) : Report :=
  ⟨fault.message, []⟩

/-- What the web answered is not known in detail. -/
def ofFetchError (error : FetchError) : Report :=
  match error with
  | .unreadable _ fault => (ofFault fault).under error.message
  | .http _ | .status .. | .invalidPath .. => ⟨error.message, []⟩

def ofSampleError (error : SampleError) : Report :=
  match error with
  | .fetchFailed _ cause => (ofFetchError cause).under error.message
  | .notFound _ => ⟨error.message, []⟩

/-- A syntax error of a configuration or a manifest. -/
def ofSyntax : Report := ⟨"TOML parse error", []⟩

def ofManifestError (error : ManifestError) : Report :=
  match error with
  | .unreadable _ fault => (ofFault fault).under error.message
  | .malformed => ofSyntax.under error.message
  | .empty | .duplicateId _ | .groupNotContiguous _ => ⟨error.message, []⟩

def ofConfigError (error : ConfigError) : Report :=
  match error with
  | .unreadable _ fault => (ofFault fault).under error.message
  | .malformed => ofSyntax.under error.message
  | .manifest cause => ofManifestError cause
  | .fetcher cause => (ofFetchError cause).under error.message
  | .unknownDefaultSample _ => ⟨error.message, []⟩

end Report

end CodePlayground.CommandLine
