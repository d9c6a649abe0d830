import Mathlib.Logic.Basic

/-!
# Extended field attributes

An attribute set maps the names used by the screen buffer to values.  Names
with an attribute class hold an attribute object when the class accepts the
value; every other value is kept as a raw integer.  Raw integers have no
dictionary form, so a set holding one cannot be serialised.
-/

namespace Pure3270

/-- The names under which attributes are stored. -/
inductive AttributeType where
  | default
  | background
  | transparency
  | lightPen
  | highlight
  | color
  | characterSet
  | validation
  | outlining
  | extendedColor
  | extendedHighlight
  | dbcsCharset
  | allAttributes
  deriving DecidableEq, Repr

namespace AttributeType

def all : List AttributeType :=
  [default, background, transparency, lightPen, highlight, color,
    characterSet, validation, outlining, extendedColor, extendedHighlight,
    dbcsCharset, allAttributes]

theorem mem_all (attrType : AttributeType) : attrType ∈ all := by
  cases attrType <;> simp [all]

/-- The names with an attribute class. -/
def hasClass : AttributeType → Bool
  | color | highlight | validation | outlining | lightPen | background
  | characterSet => true
  | default | transparency | extendedColor | extendedHighlight | dbcsCharset
  | allAttributes => false

/-- Whether the class of the name accepts the value.  Names without a class
accept nothing. -/
def accepts (value : Nat) : AttributeType → Bool
  | color | highlight | validation | outlining | background | characterSet =>
      decide (value ≤ 0xFF)
  | lightPen => decide (value ≤ 1)
  | default | transparency | extendedColor | extendedHighlight | dbcsCharset
  | allAttributes => false

end AttributeType

/-- What an attribute set holds under one name. -/
inductive StoredAttribute where
  | object (value : Nat)
  | raw (value : Nat)
  deriving DecidableEq, Repr

namespace StoredAttribute

/-- The result of `set_attribute` on a raw value: wrap it where the class of
the name accepts it, keep it raw otherwise. -/
def wrap (attrType : AttributeType) (value : Nat) : StoredAttribute :=
  if attrType.accepts value then .object value else .raw value

/-- `ExtendedAttributeSet.get`: attribute objects are unwrapped. -/
def get : StoredAttribute → Nat
  | object value => value
  | raw value => value

def isObject : StoredAttribute → Bool
  | object _ => true
  | raw _ => false

@[simp] theorem get_wrap (attrType : AttributeType) (value : Nat) :
    (wrap attrType value).get = value := by
  unfold wrap
  split <;> rfl

end StoredAttribute

/-- A set of attributes for one position.  A name holds an attribute object
exactly when its class accepts the value. -/
structure ExtendedAttributeSet where
  attributes : AttributeType → Option StoredAttribute
  wrapped : ∀ {attrType stored}, attributes attrType = some stored →
    stored = StoredAttribute.wrap attrType stored.get

namespace ExtendedAttributeSet

@[ext] theorem ext {left right : ExtendedAttributeSet}
    (agree : ∀ attrType, left.attributes attrType = right.attributes attrType) :
    left = right := by
  cases left
  cases right
  congr
  exact funext agree

def empty : ExtendedAttributeSet := ⟨fun _ => none, by simp⟩

/-- `__len__() == 0`, the truth value of the container. -/
def isEmpty (set : ExtendedAttributeSet) : Bool :=
  AttributeType.all.all fun attrType => (set.attributes attrType).isNone

def setAttribute (attrType : AttributeType) (value : Nat)
    (set : ExtendedAttributeSet) : ExtendedAttributeSet where
  attributes other :=
    if other = attrType then some (StoredAttribute.wrap attrType value)
    else set.attributes other
  wrapped := by
    intro other stored found
    split at found
    · rename_i same
      cases found
      rw [same, StoredAttribute.get_wrap]
    · exact set.wrapped found

def getAttribute (attrType : AttributeType) (set : ExtendedAttributeSet) :
    Option StoredAttribute :=
  set.attributes attrType

/-- `get`: the value under a name, attribute objects replaced by their value. -/
def get (attrType : AttributeType) (set : ExtendedAttributeSet) : Option Nat :=
  (set.attributes attrType).map StoredAttribute.get

/-- Every stored value is an attribute object. -/
def allWrapped (set : ExtendedAttributeSet) : Bool :=
  AttributeType.all.all fun attrType =>
    (set.attributes attrType).all StoredAttribute.isObject

theorem allWrapped_iff {set : ExtendedAttributeSet} :
    set.allWrapped = true ↔
      ∀ attrType stored, set.attributes attrType = some stored →
        stored.isObject = true := by
  unfold allWrapped
  rw [List.all_eq_true]
  constructor
  · intro every attrType stored found
    have here := every attrType (AttributeType.mem_all attrType)
    rw [found] at here
    exact here
  · intro every attrType _
    cases found : set.attributes attrType with
    | none => rfl
    | some stored => exact every attrType stored found

/-- The dictionary form: the value under each name.  Serialisation calls
`to_dict` on every stored object, which a raw integer does not have. -/
def toDict (set : ExtendedAttributeSet) : Option (AttributeType → Option Nat) :=
  if set.allWrapped then some fun attrType => set.get attrType else none

/-- Rebuild a set from its dictionary form.  Names without a class are
skipped, and a value its class rejects aborts the whole load. -/
def fromDict (data : AttributeType → Option Nat) :
    Option ExtendedAttributeSet :=
  if AttributeType.all.all fun attrType =>
      match data attrType with
      | none => true
      | some value => attrType.accepts value || !attrType.hasClass
  then
    some {
      attributes := fun attrType =>
        match data attrType with
        | none => none
        | some value =>
            if attrType.accepts value then some (.object value) else none
      wrapped := by
        intro attrType stored found
        split at found
        · cases found
        · split at found
          · cases found
            simp_all [StoredAttribute.wrap, StoredAttribute.get]
          · cases found }
  else none

private theorem accepts_of_isObject {set : ExtendedAttributeSet}
    {attrType : AttributeType} {stored : StoredAttribute}
    (found : set.attributes attrType = some stored)
    (isObject : stored.isObject = true) :
    attrType.accepts stored.get = true ∧ stored = .object stored.get := by
  have form := set.wrapped found
  unfold StoredAttribute.wrap at form
  split at form
  · exact ⟨by assumption, form⟩
  · rw [form] at isObject
    cases isObject

/-- A set of attribute objects survives the round trip through its
dictionary form. -/
theorem fromDict_toDict {set : ExtendedAttributeSet}
    (objects : set.allWrapped = true) :
    (set.toDict.bind fromDict) = some set := by
  have every := allWrapped_iff.mp objects
  have loads : (AttributeType.all.all fun attrType =>
      match set.get attrType with
      | none => true
      | some value => attrType.accepts value || !attrType.hasClass) = true := by
    rw [List.all_eq_true]
    intro attrType _
    cases found : set.attributes attrType with
    | none => simp [get, found]
    | some stored =>
        have accepted := (accepts_of_isObject found (every _ _ found)).1
        simp [get, found, accepted]
  unfold toDict
  rw [if_pos objects, Option.bind_some]
  unfold fromDict
  rw [if_pos loads]
  congr 1
  ext1 attrType
  cases found : set.attributes attrType with
  | none => simp [get, found]
  | some stored =>
      have object := accepts_of_isObject found (every _ _ found)
      simp [get, found, object.1, ← object.2]

theorem toDict_eq_none {set : ExtendedAttributeSet}
    (raw : set.allWrapped = false) : set.toDict = none := by
  simp [toDict, raw]

theorem empty_allWrapped : empty.allWrapped = true := by decide

end ExtendedAttributeSet

/-- `CharacterSetAttribute.is_dbcs`. -/
def isDbcs (value : Nat) : Bool :=
  value ∈ [0x02, 0x41, 0x42, 0x43, 0x44, 0x45, 0x46, 0xF1, 0xF2, 0xF3, 0xF4,
    0xF5, 0xF6, 0xF7, 0xF8, 0xF9, 0xFA, 0xFB, 0xFC, 0xFD, 0xFE]

/-- The name an attribute type byte of SFE, SA or MF selects. -/
def attrMap : UInt8 → Option AttributeType
  | 0x00 => some .default
  | 0x02 => some .background
  | 0x03 => some .transparency
  | 0x08 => some .lightPen
  | 0x41 => some .highlight
  | 0x42 => some .color
  | 0x43 => some .characterSet
  | 0x44 => some .validation
  | 0x45 => some .outlining
  | 0x54 => some .extendedColor
  | 0x6D => some .extendedHighlight
  | 0xC1 => some .validation
  | 0xC2 => some .outlining
  | 0xF1 => some .dbcsCharset
  | 0xFF => some .allAttributes
  | _ => none

end Pure3270
