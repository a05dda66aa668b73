import CodeStyle.SyntaxTree.Basic

/-!
# Declarators

The declarators of C nest: each level adds a pointer, an array, an initial value or parameters to
the name in the middle. The chain of a declarator holds its levels from the outermost inwards.
-/
namespace CodeStyle.SyntaxTree

/-- Whether a node is found among children as the next level of a declarator. -/
def isDeclaratorLevel (t : SyntaxTree) : Bool :=
  t.info.isNamed && (t.kind.endsWith "declarator" || t.kind == "identifier")

/-- The next level of a declarator: the child in its field, else the first child that can be. -/
def innerDeclarator? (t : SyntaxTree) : Option SyntaxTree :=
  t.field? "declarator" <|> t.children.find? isDeclaratorLevel

mutual

/-- The levels of a declarator. -/
def declaratorChain : SyntaxTree → List SyntaxTree
  | node i cs =>
    node i cs ::
      (chainOfFirst (inField "declarator") cs <|> chainOfFirst isDeclaratorLevel cs).getD []

/-- The levels of the first child that passes a test. -/
def chainOfFirst (p : SyntaxTree → Bool) : List SyntaxTree → Option (List SyntaxTree)
  | [] => none
  | c :: cs => if p c then some (declaratorChain c) else chainOfFirst p cs

end

theorem chainOfFirst_eq_map (p : SyntaxTree → Bool) (cs : List SyntaxTree) :
    chainOfFirst p cs = (cs.find? p).map declaratorChain := by
  induction cs with
  | nil => simp [chainOfFirst]
  | cons c cs ih => by_cases h : p c <;> simp [chainOfFirst, h, ih]

/-- A chain goes on with the chain of the next level. -/
theorem declaratorChain_eq (t : SyntaxTree) :
    t.declaratorChain = t :: (t.innerDeclarator?.map declaratorChain).getD [] := by
  cases t with
  | node i cs =>
    simp only [declaratorChain, chainOfFirst_eq_map, innerDeclarator?, field?, children_node]
    cases cs.find? (inField "declarator") <;> simp

/-- The outermost level that declares a function. -/
def functionLevel? (t : SyntaxTree) : Option SyntaxTree :=
  t.declaratorChain.find? (·.kind == "function_declarator")

/-- The name in the middle of a declarator. -/
def declaredName? (t : SyntaxTree) : Option SyntaxTree :=
  t.declaratorChain.find? (·.kind == "identifier")

/-- The name of the variable that a declarator declares, none if a function level comes first. -/
def declaredVariable? (t : SyntaxTree) : Option SyntaxTree :=
  (t.declaratorChain.find? fun c => ["identifier", "function_declarator"].contains c.kind).filter
    (·.kind == "identifier")

/-- The function level of a definition. -/
def definedFunction? (definition : SyntaxTree) : Option SyntaxTree :=
  (definition.field? "declarator").bind functionLevel?

def functionName? (definition : SyntaxTree) : Option SyntaxTree :=
  (definition.definedFunction?.bind (·.field? "declarator")).bind declaredName?

/-- The variables declared by a field or a local declaration of Java. -/
def declaredNames (declaration : SyntaxTree) : List SyntaxTree :=
  (declaration.fields "declarator").filterMap (·.field? "name")

/-- Whether a declaration of Java carries the modifier for constants. -/
def isFinal (declaration : SyntaxTree) : Bool :=
  (declaration.firstChild? ["modifiers"]).any (·.hasChild "final")

end CodeStyle.SyntaxTree
