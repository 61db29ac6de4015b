import CilRecovery.Cil.Token

/-!
# References to members

What an operand says about the field, method or type that it names.  The full name is text for
people; the token alone decides identity.
-/

namespace CilRecovery

/-- A field as an operand names it. -/
structure FieldRef where
  token : Token
  fullName : String
deriving DecidableEq

structure MethodRef where
  token : Token
  fullName : String
  returnType : String
deriving DecidableEq

structure TypeRef where
  token : Token
  fullName : String
deriving DecidableEq

/-- A full name, followed by its token in brackets. -/
def renderMember (fullName : String) (token : Token) : String :=
  fullName ++ " [" ++ token.render ++ "]"

def FieldRef.render (f : FieldRef) : String := renderMember f.fullName f.token

def TypeRef.render (t : TypeRef) : String := renderMember t.fullName t.token

namespace MethodRef

def render (m : MethodRef) : String := renderMember m.fullName m.token

/-- Whether the method is defined in the binary itself, so that it can have a body. -/
def isDefinition (m : MethodRef) : Bool := m.token.isMethodDef

end MethodRef

end CilRecovery
