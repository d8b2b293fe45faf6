import AgentTool.Unicode.CharSet

/-!
# Regular expressions: abstract syntax

The syntax tree keeps every construct as written.  What a class or an assertion
means depends on the flags in force where it stands and is settled later.
-/

namespace AgentTool
namespace Regex

/-- Why a pattern is refused. -/
inductive Error where
  | malformed (reason : String)
  | tooLarge (limit : Nat)
  deriving DecidableEq, Repr

/-- The text of an error. -/
def Error.message : Error → String
  | .malformed reason => s!"regex parse error: {reason}"
  | .tooLarge limit => s!"Compiled regex exceeds size limit of {limit} bytes."

/-- The flags that a pattern can switch. -/
inductive Flag where
  | caseInsensitive | multiLine | dotAll | swapGreed | unicode | crlf | verbose
  deriving DecidableEq, Repr

/-- Flags to switch on and off. -/
abbrev FlagChange := List (Flag × Bool)

/-- Zero-width assertions as written. -/
inductive Assertion where
  | startLine | endLine | startText | endText
  | wordBoundary | notWordBoundary
  | wordStart | wordEnd | wordStartHalf | wordEndHalf
  deriving DecidableEq, Repr

/-- The classes `\d`, `\s` and `\w`. -/
inductive PerlClass where
  | digit | space | word
  deriving DecidableEq, Repr

/-- What `\p` asks for. -/
inductive Query where
  | name (s : String)
  | value (property value : String)
  deriving DecidableEq, Repr

/-- The operations between the parts of a bracketed class. -/
inductive SetOp where
  | intersection | difference | symmetricDifference
  deriving DecidableEq, Repr

/-- A literal character; `isByte` if it was written as `\x` and two digits. -/
structure Literal where
  char : Char
  isByte : Bool := false
  deriving DecidableEq, Repr

/-- The contents of a bracketed class. -/
inductive ClassSet where
  | literal (c : Literal)
  | range (first last : Literal)
  | ascii (ranges : CharSet) (negated : Bool)
  | perl (kind : PerlClass) (negated : Bool)
  | unicode (query : Query) (negated : Bool)
  | bracketed (negated : Bool) (set : ClassSet)
  | union (items : List ClassSet)
  | op (kind : SetOp) (left right : ClassSet)

/-- A pattern as written. -/
inductive Ast where
  | empty
  | flags (change : FlagChange)
  | literal (c : Literal)
  | dot
  | assertion (kind : Assertion)
  | perl (kind : PerlClass) (negated : Bool)
  | unicode (query : Query) (negated : Bool)
  | bracketed (negated : Bool) (set : ClassSet)
  | repetition (least : Nat) (most : Option Nat) (sub : Ast)
  | capture (sub : Ast)
  | group (change : FlagChange) (sub : Ast)
  | alternation (branches : List Ast)
  | concat (items : List Ast)

mutual

/-- The depth of nesting of a class. -/
def ClassSet.depth : ClassSet → Nat
  | .bracketed _ set => set.depth + 1
  | .union items => depthItems items + 1
  | .op _ left right => max left.depth right.depth + 1
  | _ => 0

/-- The largest depth among the items of a class. -/
def depthItems : List ClassSet → Nat
  | [] => 0
  | s :: ss => max s.depth (depthItems ss)

end

mutual

/-- The depth of nesting of a pattern. -/
def Ast.depth : Ast → Nat
  | .bracketed _ set => set.depth + 1
  | .repetition _ _ sub => sub.depth + 1
  | .capture sub => sub.depth + 1
  | .group _ sub => sub.depth + 1
  | .alternation branches => depthAll branches + 1
  | .concat items => depthAll items + 1
  | _ => 0

/-- The largest depth among patterns. -/
def depthAll : List Ast → Nat
  | [] => 0
  | a :: as => max a.depth (depthAll as)

end

/-- The deepest nesting that is accepted. -/
def nestingLimit : Nat := 250

end Regex
end AgentTool
