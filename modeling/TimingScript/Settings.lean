import TimingScript.Clock

/-! # Settings — what a sequencer can be configured with

    There is one setting, the frequency of the clock.  A settings
    document may give it and so may the command line, which comes first;
    a clock has to tick.

    How documents are written is not settled here.  A reader is whatever
    finds the settings that a text gives, or says in its own words why it
    gives none, and nothing is assumed of a reader beyond that. -/

namespace TimingScript

/-- The settings that a document gives. -/
structure Settings where
  clockFrequency : Option Nat
deriving DecidableEq, Repr

namespace Settings

/-- A reader of documents.  It answers a text with the settings that the
    text gives, or with a message about what is wrong with it. -/
abbrev Reader := String → Except String Settings

/-- Why settings are refused. -/
inductive Fault where
  /-- A document is refused, in the words of its reader. -/
  | refused (message : String)
  | zeroFrequency
deriving DecidableEq, Repr

/-- The wording of a fault. -/
def Fault.message : Fault → String
  | refused message => message
  | zeroFrequency => "the clock frequency must not be zero"

/-- The clock to compile for.  A frequency from the command line comes
    before one from a document, and that before the standard one. -/
def resolve (settings : Option Settings) (frequency : Option Nat) :
    Except Fault Clock :=
  let configured := settings.bind Settings.clockFrequency
  let chosen :=
    (frequency.orElse fun _ => configured).getD Clock.standard.frequency
  if chosen = 0 then .error .zeroFrequency else .ok ⟨chosen⟩

end Settings

end TimingScript
