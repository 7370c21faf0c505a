import TimingScript.Settings
import TimingScript.Settings.Document
import TimingScript.Settings.Meaning

/-! # Mappings — a reader of settings

    The frequency of the clock is given under the key `clock_frequency`.
    Unknown and repeated keys are refused.  This is the reader with which
    jobs are run here; it is one of many that a job can be run with, and
    its message about a text that is no document at all is its own. -/

namespace TimingScript.Settings

/-- Nothing is set. -/
def unset : Settings := ⟨none⟩

/-- The key of the clock's frequency. -/
def frequencyKey : String := "clock_frequency"

/-! ## Faults -/

/-- Why a document gives no settings. -/
inductive Document.Fault where
  /-- The text is no document. -/
  | unreadable
  | unknownKey (key : String) (place : Mark)
  | repeatedKey (key : String) (place : Mark)
  /-- A key is no scalar. -/
  | noKey (found : Placed)
  /-- The value of the frequency is no number. -/
  | noFrequency (found : Placed)
  /-- A value with the tag of null is none. -/
  | noNull (text : String) (place : Mark)
  /-- The root of the document is no mapping. -/
  | noMapping (found : Placed)
deriving DecidableEq, Repr

/-- A place behind a message; the beginning of a text goes without
    saying. -/
def Mark.suffix (mark : Mark) : String :=
  if mark = ⟨1, 1⟩ then "" else s!" at line {mark.line} column {mark.column}"

/-- The tags of scalars that may not have any text, with what the text has
    to be. -/
def demands : List (String × (String → Option Meaning) × String) :=
  [(Tag.truth, fun text => (truth? text).map .truth, "a boolean"),
    (Tag.integer, fun text => (integer? text).map .integer, "an integer"),
    (Tag.float, float?, "a float"),
    (Tag.null, fun text => if isNull text then some .null else none, "null")]

/-- A message about a value of the wrong type. -/
def misfit (description expected : String) : String :=
  s!"invalid type: {description}, expected {expected}"

/-- A message about a text that its tag does not allow. -/
def mistake (text expected : String) : String :=
  s!"invalid value: string {Text.Quotation.quote text}, expected {expected}"

/-- The meaning of a scalar whose tag, if it has one, makes no demands.
    Tags of the document's own leave plain scalars their meaning. -/
def freeMeaning (text : String) (style : Style) (tag : Option String) :
    Meaning :=
  let isOwn := tag.all fun name => name.toList.head? = some '!'
  if style = .plain && isOwn then .of text else .text text

/-- What is wrong with a scalar where another value is expected. -/
def scalarComplaint (expected text : String) (style : Style)
    (tag : Option String) : String :=
  match tag.bind fun name => demands.lookup name with
  | some (meaning?, noun) =>
      match meaning? text with
      | some meaning => misfit meaning.description expected
      | none => mistake text noun
  | none => misfit (freeMeaning text style tag).description expected

/-- What is wrong with a value where another one is expected. -/
def Placed.complaint (found : Placed) (expected : String) : String :=
  match found.value with
  | .sequence => misfit "sequence" expected
  | .mapping => misfit "map" expected
  | .scalar text style tag => scalarComplaint expected text style tag

/-- The wording of a fault. -/
def Document.Fault.message : Document.Fault → String
  | unreadable => "the text is not a settings document"
  | unknownKey key place =>
      s!"unknown field `{key}`, expected `{frequencyKey}`{place.suffix}"
  | repeatedKey key place => s!"duplicate field `{key}`{place.suffix}"
  | noKey found =>
      found.complaint "field identifier" ++ found.mark.suffix
  | noFrequency found =>
      frequencyKey ++ ": " ++ found.complaint "u64" ++ found.mark.suffix
  | noNull text place => mistake text "null" ++ place.suffix
  | noMapping found =>
      found.complaint "struct ConfigFile" ++ found.mark.suffix

/-! ## Reading -/

/-- What a value means for the setting that it is given to. -/
inductive Content where
  /-- The setting stays as it was. -/
  | absent
  /-- A text that has to be a whole number. -/
  | number (text : String)
  /-- A text that has to be null, but is not. -/
  | noNull (text : String)
  /-- A value of another kind. -/
  | other
deriving DecidableEq, Repr

/-- What a value holds.  Quoted scalars are no numbers, literal ones only
    with the tag of numbers.  A plain scalar is one whatever its tag is,
    unless the tag is that of null. -/
def Value.content : Value → Content
  | .scalar text .plain none =>
      if text.isEmpty || isNull text then .absent else .number text
  | .scalar text .plain (some tag) =>
      if tag ≠ Tag.null then .number text
      else if isNull text then .absent
      else .noNull text
  | .scalar text .literal (some tag) =>
      if tag = Tag.integer then .number text else .other
  | _ => .other

/-- The frequency that a value gives, if any, in a mapping that begins at
    `place`. -/
def frequency? (place : Mark) (found : Placed) :
    Except Document.Fault (Option Nat) :=
  match found.value.content with
  | .absent => .ok none
  | .number text =>
      match whole? text with
      | some n => .ok (some n)
      | none => .error (.noFrequency found)
  | .noNull text => .error (.noNull text place)
  | .other => .error (.noFrequency found)

/-- The settings of a mapping that begins at `place`, where `earlier`
    holds the value of the frequency's key, once it was seen. -/
def ofEntries (place : Mark) (earlier : Option Settings) :
    List Entry → Except Document.Fault Settings
  | [] => .ok (earlier.getD unset)
  | ⟨key, value⟩ :: rest =>
      match key.value, value with
      | .scalar name _ _, value =>
          if name ≠ frequencyKey then .error (.unknownKey name key.mark)
          else if earlier.isSome then .error (.repeatedKey name place)
          else
            match value.map (frequency? place) with
            | none => .error .unreadable
            | some (.error fault) => .error fault
            | some (.ok frequency) => ofEntries place (some ⟨frequency⟩) rest
      | _, _ => .error (.noKey key)

/-- The settings of a root.  One that is not written gives none, nor does
    an unwritten one with a tag. -/
def ofRoot : Option Root → Except Document.Fault Settings
  | none => .ok unset
  | some (.entries place entries) => ofEntries place none entries
  | some (.value found) =>
      match found.value with
      | .scalar "" .plain _ => .ok unset
      | _ => .error (.noMapping found)

/-- The settings that a document gives, of which all has to be
    readable. -/
def ofDocument (document : Document) : Except Document.Fault Settings :=
  match ofRoot document.root with
  | .error fault => .error fault
  | .ok settings =>
      if document.isComplete then .ok settings else .error .unreadable

/-- The reader of documents with one mapping. -/
def read : Reader := fun text =>
  (ofDocument (Document.read text)).mapError Document.Fault.message

end TimingScript.Settings
