import AutoDiag.Security.Unlock

/-!
# The original matcher

`Definition.FindDefinition` of the C# sources, over the same definitions.
`string.ToUpper` is a parameter, as `str.upper` is one of a library.
-/

namespace AutoDiag.CSharp

open Security

/-- `Definition.FindDefinition`. -/
def findDefinition (toUpper : String → String) (ecuName : String) (accessLevel : Int) :
    List Definition → Option Definition
  | [] => none
  | d :: definitions =>
    if accessLevel ≠ d.accessLevel then findDefinition toUpper ecuName accessLevel definitions
    else if ecuName ≠ toUpper d.ecuName ∧ ecuName ∉ d.aliases then
      findDefinition toUpper ecuName accessLevel definitions
    else some d

end AutoDiag.CSharp
