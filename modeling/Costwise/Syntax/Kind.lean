/-!
# Kinds of Syntax Nodes

The kinds of node that the analysis tells apart, and the fields under which a
node holds its children. A grammar has many more of both; the others keep their
name and nothing is ever decided by it, except that the kind of an operator
token is the operator itself.

## Main definitions

* `Kind`: What a node is.
* `Kind.ofName`, `Kind.name`: To and from the grammar's names.
* `Field`: The part that a child plays.

## Theorems

* `Kind.name_ofName`: No name is lost.
-/

namespace Costwise

namespace Syntax

/-- What a node is. -/
inductive Kind where
  /-- A loop with a counter. -/
  | forLoop
  /-- A loop over the members of a value. -/
  | forInLoop
  /-- A loop that tests first. -/
  | whileLoop
  /-- A loop that tests last. -/
  | doLoop
  /-- A declared function. -/
  | functionDeclaration
  /-- A declared generator. -/
  | generatorDeclaration
  /-- A function as a value. -/
  | functionValue
  /-- The keyword, which some trees use for a function as a value. -/
  | functionKeyword
  /-- A generator as a value. -/
  | generatorValue
  /-- An arrow function. -/
  | arrow
  /-- A method of a class or an object. -/
  | method
  /-- A declared class. -/
  | classDeclaration
  /-- A class as a value, or the keyword. -/
  | classValue
  /-- A variable with its value. -/
  | declarator
  /-- A key of an object with its value. -/
  | pair
  /-- A field of a class with its value. -/
  | fieldDefinition
  /-- A call. -/
  | call
  /-- A call that constructs. -/
  | construction
  /-- Two operands and an operator. -/
  | binary
  /-- One operand and an operator. -/
  | unary
  /-- An assignment that also computes. -/
  | compoundAssignment
  /-- A property of an object. -/
  | member
  /-- An element of an object, by a computed key. -/
  | subscript
  /-- An expression in parentheses. -/
  | parenthesized
  /-- A number. -/
  | number
  /-- A name. -/
  | identifier
  /-- The object that a method belongs to. -/
  | this
  /-- A comment. -/
  | comment
  /-- Text that fits nowhere. -/
  | error
  /-- Any other node or token. -/
  | other (name : String)
  deriving DecidableEq, Repr, Inhabited

namespace Kind

/-- The kinds with a name of their own. -/
def table : List (String × Kind) :=
  [("for_statement", forLoop), ("for_in_statement", forInLoop), ("while_statement", whileLoop),
    ("do_statement", doLoop), ("function_declaration", functionDeclaration),
    ("generator_function_declaration", generatorDeclaration),
    ("function_expression", functionValue), ("function", functionKeyword),
    ("generator_function", generatorValue), ("arrow_function", arrow),
    ("method_definition", method), ("class_declaration", classDeclaration),
    ("class", classValue), ("variable_declarator", declarator), ("pair", pair),
    ("field_definition", fieldDefinition), ("call_expression", call),
    ("new_expression", construction), ("binary_expression", binary),
    ("unary_expression", unary), ("augmented_assignment_expression", compoundAssignment),
    ("member_expression", member), ("subscript_expression", subscript),
    ("parenthesized_expression", parenthesized), ("number", number),
    ("identifier", identifier), ("this", this), ("comment", comment), ("ERROR", error)]

/-- The kind of a name. -/
def ofName (name : String) : Kind :=
  (table.lookup name).getD (other name)

/-- The name of a kind. -/
def name : Kind → String
  | forLoop => "for_statement"
  | forInLoop => "for_in_statement"
  | whileLoop => "while_statement"
  | doLoop => "do_statement"
  | functionDeclaration => "function_declaration"
  | generatorDeclaration => "generator_function_declaration"
  | functionValue => "function_expression"
  | functionKeyword => "function"
  | generatorValue => "generator_function"
  | arrow => "arrow_function"
  | method => "method_definition"
  | classDeclaration => "class_declaration"
  | classValue => "class"
  | declarator => "variable_declarator"
  | pair => "pair"
  | fieldDefinition => "field_definition"
  | call => "call_expression"
  | construction => "new_expression"
  | binary => "binary_expression"
  | unary => "unary_expression"
  | compoundAssignment => "augmented_assignment_expression"
  | member => "member_expression"
  | subscript => "subscript_expression"
  | parenthesized => "parenthesized_expression"
  | number => "number"
  | identifier => "identifier"
  | this => "this"
  | comment => "comment"
  | error => "ERROR"
  | other name => name

/-- Whether a name and a kind of a table belong together. -/
theorem name_of_mem_table : ∀ entry ∈ table, entry.2.name = entry.1 := by
  decide

theorem name_ofName (text : String) : (ofName text).name = text := by
  unfold ofName
  cases h : table.lookup text with
  | none => rfl
  | some kind =>
    have hmem : (text, kind) ∈ table := by
      revert h
      generalize table = entries
      induction entries with
      | nil =>
        exact fun h => absurd h (by simp only [List.lookup_nil, reduceCtorEq, not_false_eq_true])
      | cons entry rest ih =>
        intro h
        by_cases heq : text = entry.1
        · rw [List.lookup_cons, beq_iff_eq.mpr heq] at h
          obtain ⟨first, second⟩ := entry
          cases h
          exact heq ▸ List.mem_cons_self
        · rw [List.lookup_cons, beq_eq_false_iff_ne.mpr heq] at h
          exact List.mem_cons_of_mem _ (ih h)
    exact name_of_mem_table _ hmem

/-- Whether a node of this kind repeats its children. -/
def isLoop : Kind → Bool
  | forLoop | forInLoop | whileLoop | doLoop => true
  | _ => false

/-- Whether a node of this kind declares a function by name. -/
def isDeclaration : Kind → Bool
  | functionDeclaration | generatorDeclaration => true
  | _ => false

/-- Whether a node of this kind is a function as a value. -/
def isFunctionValue : Kind → Bool
  | functionValue | functionKeyword | generatorValue | arrow => true
  | _ => false

/-- Whether a node of this kind is a class. -/
def isClass : Kind → Bool
  | classDeclaration | classValue => true
  | _ => false

end Kind

/-- The part that a child plays in its parent. -/
inductive Field where
  /-- The name of a definition. -/
  | name
  /-- The key of a pair. -/
  | key
  /-- The property of a member, or the name of a class field. -/
  | property
  /-- The value that a name is bound to. -/
  | value
  /-- The body of a function. -/
  | body
  /-- The operator of an expression. -/
  | operator
  /-- The right operand. -/
  | right
  /-- What is called. -/
  | callee
  /-- The arguments of a call. -/
  | arguments
  /-- The object whose property is meant. -/
  | object
  /-- Any other part. -/
  | other (name : String)
  deriving DecidableEq, Repr

namespace Field

/-- The fields with a name of their own. -/
def table : List (String × Field) :=
  [("name", name), ("key", key), ("property", property), ("value", value), ("body", body),
    ("operator", operator), ("right", right), ("function", callee), ("arguments", arguments),
    ("object", object)]

/-- The field of a name. -/
def ofName (name : String) : Field :=
  (table.lookup name).getD (other name)

end Field

end Syntax

end Costwise
