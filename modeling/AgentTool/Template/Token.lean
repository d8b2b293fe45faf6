import AgentTool.Text.Split
import AgentTool.Text.Percent

/-!
# Template tokens

A template is text with markers `${…}`.  A marker ends at the first `}` outside
quotes; inside quotes a backslash takes the next character as it is.  A marker
that never ends swallows the rest of the template.  Offsets count UTF-8 bytes.
-/

namespace AgentTool
namespace Template

/-- A stretch of a template. -/
inductive Token where
  | text (cs : List Char)
  | marker (body : List Char) (offset : Nat)
  | unterminated (rest : List Char) (offset : Nat)
  deriving DecidableEq, Repr

/-- The stretch of template that a token stands for. -/
def Token.source : Token → List Char
  | .text cs => cs
  | .marker body _ => '$' :: '{' :: body ++ ['}']
  | .unterminated rest _ => rest

/-- Where a scan of a marker's body stands. -/
inductive Quoting where
  | outside
  | inside (quote : Char)
  | escaped (quote : Char)
  deriving DecidableEq, Repr

/-- One character further in the body of a marker. -/
def Quoting.next : Quoting → Char → Quoting
  | .outside, c => if c = '"' ∨ c = '\'' then .inside c else .outside
  | .inside q, c => if c = '\\' then .escaped q else if c = q then .outside else .inside q
  | .escaped q, _ => .inside q

/-- The body of a marker and what follows its closing brace. -/
def closeFrom (q : Quoting) : List Char → Option (List Char × List Char)
  | [] => none
  | c :: cs =>
    if q = .outside ∧ c = '}' then some ([], cs)
    else (closeFrom (q.next c) cs).map fun p => (c :: p.1, p.2)

/-- The text before the first `${` and, if there is one, the text after it. -/
def breakMarker : List Char → List Char × Option (List Char)
  | [] => ([], none)
  | '$' :: '{' :: cs => ([], some cs)
  | c :: cs => (c :: (breakMarker cs).1, (breakMarker cs).2)

/-- What is left behind the opening of a marker is shorter. -/
theorem length_lt_of_breakMarker {cs rest : List Char} (h : (breakMarker cs).2 = some rest) :
    rest.length < cs.length := by
  fun_induction breakMarker cs with
  | case1 => simp at h
  | case2 cs =>
    simp only [Option.some.injEq] at h
    subst h
    simp only [List.length_cons]
    omega
  | case3 c cs _ ih =>
    have := ih h
    simp only [List.length_cons]
    omega

/-- What is left behind a marker is shorter. -/
theorem length_lt_of_closeFrom {q : Quoting} {cs body rest : List Char}
    (h : closeFrom q cs = some (body, rest)) : rest.length < cs.length := by
  induction cs generalizing q body rest with
  | nil => simp [closeFrom] at h
  | cons c cs ih =>
    unfold closeFrom at h
    split at h
    · simp only [Option.some.injEq, Prod.mk.injEq] at h
      obtain ⟨_, rfl⟩ := h
      simp
    · obtain ⟨⟨b, r⟩, hb, hp⟩ := Option.map_eq_some_iff.1 h
      simp only [Prod.mk.injEq] at hp
      obtain ⟨_, rfl⟩ := hp
      have := ih hb
      simp only [List.length_cons]
      omega

/-- A token for text, unless the text is empty. -/
def textToken (cs : List Char) : List Token := if cs.isEmpty then [] else [.text cs]

/-- The tokens of a template, of which `offset` bytes have been passed. -/
def scanFrom (offset : Nat) (cs : List Char) : List Token :=
  match _hb : breakMarker cs with
  | (text, none) => textToken text
  | (text, some inner) =>
    let start := offset + Text.utf8Size text
    match hc : closeFrom .outside inner with
    | none => textToken text ++ [.unterminated ('$' :: '{' :: inner) start]
    | some (body, rest) =>
      textToken text ++ .marker body start :: scanFrom (start + 3 + Text.utf8Size body) rest
termination_by cs.length
decreasing_by
  have h₁ : (breakMarker cs).2 = some inner := by rw [_hb]
  have := length_lt_of_breakMarker h₁
  have := length_lt_of_closeFrom hc
  omega

/-- The tokens of a template. -/
def scan (template : String) : List Token := scanFrom 0 template.toList

/-- A template without markers. -/
def isPlain (template : String) : Bool := !Text.contains ['$', '{'] template.toList

end Template
end AgentTool
