/-!
# Access flags

Classes, fields and methods carry a mask of flags. Of several visibility flags the first of public, private and
protected counts, and the interface flag wins over the enum flag.
-/

namespace ClassStub

/-- The flags of a class or member. -/
structure AccessFlags where
  bits : UInt16
  deriving DecidableEq, Repr

/-- Who may use a declaration. -/
inductive Visibility where
  | publicly
  | privately
  | protectedly
  deriving DecidableEq, Repr

/-- The Java word for a visibility. -/
def Visibility.keyword : Visibility → String
  | publicly => "public"
  | privately => "private"
  | protectedly => "protected"

/-- What a declaration introduces. -/
inductive ClassKind where
  | ordinary
  | interface
  | enumeration
  deriving DecidableEq, Repr

/-- The Java word for a kind of class. -/
def ClassKind.keyword : ClassKind → String
  | ordinary => "class"
  | interface => "interface"
  | enumeration => "enum"

namespace AccessFlags

/-- All bits of `mask` are set. -/
def has (flags : AccessFlags) (mask : UInt16) : Bool :=
  flags.bits &&& mask == mask

/-- The public flag. -/
def isPublic (flags : AccessFlags) : Bool := flags.has 0x0001
/-- The private flag. -/
def isPrivate (flags : AccessFlags) : Bool := flags.has 0x0002
/-- The protected flag. -/
def isProtected (flags : AccessFlags) : Bool := flags.has 0x0004
/-- The static flag. -/
def isStatic (flags : AccessFlags) : Bool := flags.has 0x0008
/-- The final flag. -/
def isFinal (flags : AccessFlags) : Bool := flags.has 0x0010
/-- The interface flag. -/
def isInterface (flags : AccessFlags) : Bool := flags.has 0x0200
/-- The abstract flag. -/
def isAbstract (flags : AccessFlags) : Bool := flags.has 0x0400
/-- The synthetic flag. -/
def isSynthetic (flags : AccessFlags) : Bool := flags.has 0x1000
/-- The enum flag. -/
def isEnum (flags : AccessFlags) : Bool := flags.has 0x4000

/-- The visibility that counts. -/
def visibility? (flags : AccessFlags) : Option Visibility :=
  if flags.isPublic then some .publicly
  else if flags.isPrivate then some .privately
  else if flags.isProtected then some .protectedly
  else none

/-- The kind of a class with these flags. -/
def kind (flags : AccessFlags) : ClassKind :=
  if flags.isInterface then .interface
  else if flags.isEnum then .enumeration
  else .ordinary

/-- The modifiers of a field: visibility, final, static. -/
def fieldModifiers (flags : AccessFlags) : List String :=
  (flags.visibility?.map Visibility.keyword).toList ++
    (if flags.isFinal then ["final"] else []) ++
    (if flags.isStatic then ["static"] else [])

/-- The modifiers of a class or method: those of a field, then abstract. -/
def modifiers (flags : AccessFlags) : List String :=
  flags.fieldModifiers ++ (if flags.isAbstract then ["abstract"] else [])

end AccessFlags

end ClassStub
