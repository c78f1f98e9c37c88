/-!
# What can go wrong with a template
-/

namespace TagWeave.Template

inductive Fault
  /-- The text is no template. -/
  | malformed (expected : String)
  /-- An undefined value is used where a value is needed. -/
  | undefined
  | unknownFilter (name : String)
  | unknownTest (name : String)
  | unknownFunction (name : String)
  | unknownTemplate
  /-- An operation that does not fit its operands. -/
  | unfit (operation : String)
  | tooDeep
  deriving DecidableEq, Repr

def Fault.message : Fault → String
  | malformed expected => "malformed template: expected " ++ expected
  | undefined => "undefined value"
  | unknownFilter name => "unknown filter: " ++ name
  | unknownTest name => "unknown test: " ++ name
  | unknownFunction name => "unknown function: " ++ name
  | unknownTemplate => "template not found"
  | unfit operation => "invalid operands of " ++ operation
  | tooDeep => "template nests too deeply"

end TagWeave.Template
