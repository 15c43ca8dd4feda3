import Screener.Catalog.Basic
import Screener.File
import Screener.Issue
import Screener.Json.Reader

namespace Screener

namespace Definition

def defaultText (value : Json) : Checked Text :=
  match Parameter.textOf value.argument with
  | .ok text => .ok text
  | .error cause => Checked.fail (.refused (.noText cause))

def wordFlags : List (Text × Bool) :=
  [("0", false), ("off", false), ("f", false), ("false", false), ("n", false), ("no", false),
   ("1", true), ("on", true), ("t", true), ("true", true), ("y", true), ("yes", true)]

def numberFlag (value : Int) (inRange : Bool) : Checked Bool :=
  match value with
  | 0 => .ok false
  | 1 => .ok true
  | _ => Checked.fail (if inRange then .unreadableFlag else .notFlag)

def wholeFlag (value : Int) : Checked Bool :=
  numberFlag value (decide (Int64.minValue.toInt ≤ value ∧ value ≤ Int64.maxValue.toInt))

/-- Doubles are in range if they are whole and strictly between the powers of two that bound 64 bits. -/
def doubleFlag (value : Double) : Checked Bool :=
  match value.toInt? with
  | some value => numberFlag value (decide (value.natAbs < Nat.pow 2 63))
  | none => Checked.fail .notFlag

def asFlag : Json → Checked Bool
  | .bool value => .ok value
  | .int value => wholeFlag value
  | .double value => doubleFlag value
  | .str text =>
    match wordFlags.lookup (text.map Char.toLower) with
    | some flag => .ok flag
    | none => Checked.fail .unreadableFlag
  | _ => Checked.fail .notFlag

inductive Tag
  | number
  | source
  | select
  deriving DecidableEq

def Tag.name : Tag → Text
  | .number => "number"
  | .source => "source"
  | .select => "select"

def tag (members : List (Text × Json)) : Checked Tag :=
  match (Json.member? "kind" members).or (Json.member? "type" members) with
  | none => Checked.fail .untagged
  | some (.str name) =>
    match [Tag.number, .source, .select].find? (·.name == name) with
    | some tag => .ok tag
    | none => Checked.fail .unknownTag
  | some _ => Checked.fail .unknownTag

def agrees (members : List (Text × Json)) (tag : Tag) : Checked Unit :=
  match Json.member? "type" members with
  | none => .ok ()
  | some (.str name) => if name = tag.name then .ok () else Checked.fail .otherTag
  | some _ => Checked.fail .otherTag

def seriesDefault (value : Json) : Checked Text := do
  let text ← defaultText value
  if Parameter.Domain.source.allowsDefault text then return text
  else Checked.fail (.refused (.notSeries priceSeries))

def optionList : Json → Checked (List Text)
  | .arr items => Checked.items Json.asText items
  | _ => Checked.fail .notOptionList

def common (members : List (Text × Json)) (default : Json → Checked Text) :
    Checked (Text × Text × Option Text) :=
  Checked.both (Json.field members "name" Json.asText) <|
    Checked.both (Json.field members "default" default) <|
      Checked.within (.field "description") (Json.optionalText members "description")

/-- The parameter of a kind; what is said about the kind itself is checked last but for `last`. -/
def ofTag (tag : Tag) (members : List (Text × Json)) : Checked Parameter :=
  let agreement := Checked.within (.field "type") (agrees members tag)
  match tag with
  | .number => do
    let locked := Checked.within (.field "locked") <|
      match Json.member? "locked" members with
      | none => .ok false
      | some value => asFlag value
    let ((name, default, description), _, locked) ←
      Checked.both (common members defaultText) (Checked.both agreement locked)
    return ⟨name, .number locked, default, description, rfl⟩
  | .source => do
    let ((name, default, description), _) ←
      Checked.both (common members seriesDefault) agreement
    if h : Parameter.Domain.source.allowsDefault default = true then
      return ⟨name, .source, default, description, h⟩
    else Checked.fail (.refused (.notSeries priceSeries))
  | .select => do
    let ((name, default, description), _, options) ←
      Checked.both (common members defaultText)
        (Checked.both agreement (Json.field members "options" optionList))
    if options.isEmpty then Checked.fail (.refused (.noOptions name))
    else if h : (Parameter.Domain.select options).allowsDefault default = true then
      return ⟨name, .select options, default, description, h⟩
    else Checked.fail (.refused (.defaultNotOffered name default))

def parameter : Json → Checked Parameter
  | .obj members => do
    let tag ← tag members
    Checked.within (.field tag.name) (ofTag tag members)
  | _ => Checked.fail .notParameter

def parameterList : Json → Checked (List Parameter)
  | .arr items => Checked.items parameter items
  | _ => Checked.fail .notParameterList

def functionName (name : Text) : Checked { name : Text // isIdentifier name = true } :=
  if h : isIdentifier name = true then .ok ⟨name, h⟩
  else Checked.fail (.refused (.invalidFunctionName name))

def firstRepeated (seen : List Text) : List Text → Option Text
  | [] => none
  | text :: rest => if seen.contains text then some text else firstRepeated (text :: seen) rest

theorem nodup_of_firstRepeated_eq_none {seen texts : List Text}
    (h : firstRepeated seen texts = none) : texts.Nodup ∧ ∀ text ∈ texts, text ∉ seen := by
  induction texts generalizing seen with
  | nil => simp
  | cons text rest ih =>
    by_cases hmem : seen.contains text
    · simp [firstRepeated, List.contains_iff_mem.1 hmem] at h
    · have hmem : text ∉ seen := fun hin => hmem (List.contains_iff_mem.2 hin)
      simp only [firstRepeated, List.contains_eq_mem, hmem, decide_false, Bool.false_eq_true,
        if_false] at h
      obtain ⟨hnodup, hrest⟩ := ih h
      refine ⟨List.nodup_cons.2 ⟨fun hin => hrest text hin List.mem_cons_self, hnodup⟩, ?_⟩
      intro other hother
      rcases List.mem_cons.1 hother with rfl | hin
      · exact hmem
      · exact fun hseen => hrest other hin (List.mem_cons_of_mem _ hseen)

def signature (name : Text) (members : List (Text × Json)) : Checked Signature := do
  let parameters := (Json.member? "params" members).getD (.arr [])
  let (⟨name, hname⟩, parameters, description) ←
    Checked.both (Checked.within (.field "name") (functionName name)) <|
      Checked.both (Checked.within (.field "params") (parameterList parameters)) <|
        Checked.within (.field "description") (Json.optionalText members "description")
  match h : firstRepeated [] (parameters.map Parameter.name) with
  | some repeated => Checked.fail (.refused (.repeatedParameter repeated name))
  | none => return ⟨name, parameters, description, hname, (nodup_of_firstRepeated_eq_none h).1⟩

end Definition

inductive CatalogError
  | notObject (name : Text)
  | invalid (name : Text) (issues : List Issue)
  | repeated (name : Text)
  deriving DecidableEq

def CatalogError.message (remark : Text) : CatalogError → Text
  | .notObject name => "definition of " ++ name.quote ++ " must be an object"
  | .invalid name _ => "invalid definition for " ++ name.quote ++ ": " ++ remark
  | .repeated name => "function " ++ name.quote ++ " is defined more than once"

namespace Catalog

def defined : Text × Json → Except CatalogError Signature
  | (name, .obj members) => (Definition.signature name members).mapError (.invalid name)
  | (name, _) => .error (.notObject name)

def ofDefinitions (definitions : List (Text × Json)) : Except CatalogError Catalog := do
  let functions ← definitions.mapM defined
  (ofSignatures functions).mapError .repeated

end Catalog

inductive CatalogFileError
  | unreadable (path : RawText)
  | notUtf8
  | longNumber (digits : Nat)
  | tooDeep (opened : List Json.Container)
  | notObject (path : RawText)
  | definitions (error : CatalogError)
  deriving DecidableEq

/-- The message for someone who asked for the catalog, with a remark of those that read the file or check the
definitions.  An encoding, a number or nesting that cannot be read at all has none. -/
def CatalogFileError.message? (remark : Text) : CatalogFileError → Option Text
  | .unreadable path => some ("could not read catalog file " ++ path.mended ++ ": " ++ remark)
  | .notObject path => some ("catalog file " ++ path.mended ++ " must contain an object")
  | .definitions error => some (error.message remark)
  | .notUtf8 | .longNumber _ | .tooDeep _ => none

def Catalog.ofJson (path : RawText) : Json → Except CatalogFileError Catalog
  | .obj definitions => (Catalog.ofDefinitions definitions).mapError .definitions
  | _ => .error (.notObject path)

def Catalog.ofFile (path : RawText) (file : FileState) (levels : Nat := Json.depthLimit) :
    Except CatalogFileError Catalog :=
  match file with
  | .absent | .directory | .unreachable => .error (.unreadable path)
  | .contents bytes =>
    match Text.decode? bytes with
    | none => .error .notUtf8
    | some text =>
      match Json.read text levels with
      | .error .malformed => .error (.unreadable path)
      | .error (.longNumber digits) => .error (.longNumber digits)
      | .error (.tooDeep opened) => .error (.tooDeep opened)
      | .ok value => Catalog.ofJson path value.mended

end Screener
