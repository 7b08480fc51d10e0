import SmartQuotes.Config.Settings
import SmartQuotes.Linter.Session

/-!
# Sessions

A session is a linter with the configuration it was built from. The marks are resolved from the rule
options when the session starts. In between documents the level, the summary and the options may be
assigned anew: the first two count from then on, the options are not read again.
-/

namespace SmartQuotes

/-- A linter with the rule options that stand in its configuration. -/
structure Session where
  linter : Linter
  options : Config.Value

/-- Something that is assigned in the configuration. -/
inductive Setting
  | level (level : Level)
  | summary (collects : Bool)
  | options (options : Config.Value)

/-- What is done with a session. The language of a document is given by its name. -/
inductive Step
  | inspect (task : Task) (language : String) (path document : Text)
  | assign (setting : Setting)

/-- What a step is answered with: for a document the reason why its language is refused or the
outcome of handling it. -/
inductive Answer
  | unsupported (message : Text)
  | handled (x : Outcome Report)
  | assigned

/-- What is said of a language that is not supported. -/
def Language.unsupportedMessage (name : String) : Text :=
  text "Unsupported language: " ++ (text name).quoted

namespace Session

/-- Start a session. -/
def start (options : Config.Value) (level : Level) (collects : Bool) :
    Except Config.Refusal Session :=
  (Config.marksOf options).map fun marks => ⟨{ marks, level, collects }, options⟩

/-- Assign a setting. -/
def assign (s : Session) : Setting → Session
  | .level level => { s with linter := { s.linter with level } }
  | .summary collects => { s with linter := { s.linter with collects } }
  | .options options => { s with options }

/-- Take a step. -/
def step (s : Session) : Step → Session × Answer
  | .assign setting => (s.assign setting, .assigned)
  | .inspect task language path document =>
    match Language.ofName? language with
    | none => (s, .unsupported (Language.unsupportedMessage language))
    | some language =>
      let (linter, x) := s.linter.run task language path document
      ({ s with linter }, .handled x)

/-- Take steps, one after the other. -/
def run (s : Session) : List Step → Session × List Answer
  | [] => (s, [])
  | x :: rest =>
    let (next, answer) := s.step x
    let (last, answers) := next.run rest
    (last, answer :: answers)

end Session

end SmartQuotes
