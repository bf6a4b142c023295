import Mathlib.Data.List.Basic

/-!
# XML markup

A reader for documents of elements, attributes and character data, character by character. It
resolves the predefined and the numeric references and normalises no white space. Comments, CDATA
sections, processing instructions and declarations are not part of the fragment. Markup that is
written as tags and texts, with the special characters of texts and attribute values escaped, is
read as these tags and texts say.
-/

namespace PhoneBridge.Library.Xml

/-! ## Documents -/

inductive Node
  | element (name : String) (attributes : List (String × String)) (children : List Node)
  | text (characters : String)

/-- The node of the character data between two tags, if there is any. -/
def textNodes (characters : List Char) : List Node :=
  if characters = [] then [] else [.text (String.ofList characters)]

/-! ## Characters -/

/-- The characters that a document may consist of. -/
def isChar (c : Char) : Bool :=
  c = '\t' || c = '\n' || c = '\r' ||
    (0x20 ≤ c.toNat && c.toNat ≠ 0xFFFE && c.toNat ≠ 0xFFFF)

def isSpace (c : Char) : Bool := c = ' ' || c = '\t' || c = '\n' || c = '\r'

/-- The ranges of the characters that a name may start with. -/
def nameStarts : List (Nat × Nat) :=
  [(0x3A, 0x3A), (0x41, 0x5A), (0x5F, 0x5F), (0x61, 0x7A), (0xC0, 0xD6), (0xD8, 0xF6),
    (0xF8, 0x2FF), (0x370, 0x37D), (0x37F, 0x1FFF), (0x200C, 0x200D), (0x2070, 0x218F),
    (0x2C00, 0x2FEF), (0x3001, 0xD7FF), (0xF900, 0xFDCF), (0xFDF0, 0xFFFD), (0x10000, 0xEFFFF)]

/-- The ranges of the other characters of a name. -/
def nameRests : List (Nat × Nat) :=
  [(0x2D, 0x2E), (0x30, 0x39), (0xB7, 0xB7), (0x300, 0x36F), (0x203F, 0x2040)]

def inRanges (ranges : List (Nat × Nat)) (c : Char) : Bool :=
  ranges.any fun range ↦ range.1 ≤ c.toNat && c.toNat ≤ range.2

def isNameStart (c : Char) : Bool := inRanges nameStarts c

def isNameChar (c : Char) : Bool := isNameStart c || inRanges nameRests c

/-! ## References -/

def digitValue (c : Char) : Option Nat :=
  if '0' ≤ c ∧ c ≤ '9' then some (c.toNat - '0'.toNat)
  else if 'a' ≤ c ∧ c ≤ 'f' then some (10 + (c.toNat - 'a'.toNat))
  else if 'A' ≤ c ∧ c ≤ 'F' then some (10 + (c.toNat - 'A'.toNat))
  else none

def number (base : Nat) (digits : List Char) : Option Nat :=
  if digits = [] then none
  else digits.foldlM (fun n c ↦
    (digitValue c).bind fun d ↦ if d < base then some (base * n + d) else none) 0

/-- The character with a number, if a document may contain it. -/
def numbered (code : Nat) : Option Char :=
  let c := Char.ofNat code
  if c.toNat = code ∧ isChar c then some c else none

def predefined : List (List Char × Char) :=
  [(['a', 'm', 'p'], '&'), (['l', 't'], '<'), (['g', 't'], '>'), (['q', 'u', 'o', 't'], '"'),
    (['a', 'p', 'o', 's'], '\x27')]

/-- The character that a reference stands for. -/
def reference : List Char → Option Char
  | '#' :: 'x' :: digits => (number 16 digits).bind numbered
  | '#' :: digits => (number 10 digits).bind numbered
  | name => predefined.lookup name

/-! ## The reader -/

/-- A start tag as far as it has been read. -/
structure Tag where
  name : List Char
  attributes : List (List Char × List Char)

def Tag.node (tag : Tag) (children : List Node) : Node :=
  .element (String.ofList tag.name)
    (tag.attributes.map fun a ↦ (String.ofList a.1, String.ofList a.2))
    children

/-- What the reader is in the middle of. -/
inductive Mode
  /-- character data, with the number of closing brackets at its end -/
  | text (read : List Char) (brackets : Nat)
  | textReference (read name : List Char)
  /-- after `<` -/
  | markup
  | openName (name : List Char)
  /-- inside a start tag, after white space -/
  | tag (t : Tag)
  | attributeName (t : Tag) (name : List Char)
  /-- before the `=` of an attribute -/
  | equals (t : Tag) (name : List Char)
  /-- before the quote of an attribute's value -/
  | quote (t : Tag) (name : List Char)
  | value (t : Tag) (name : List Char) (quote : Char) (read : List Char)
  | valueReference (t : Tag) (name : List Char) (quote : Char) (read reference : List Char)
  /-- after the value of an attribute -/
  | valueEnd (t : Tag)
  /-- after the `/` of an empty element -/
  | emptyEnd (t : Tag)
  | closeName (name : List Char)
  /-- inside an end tag, after white space -/
  | closeEnd (name : List Char)

structure State where
  /-- The elements that are open, the innermost first, each with the nodes before it. -/
  pending : List (Tag × List Node)
  /-- The nodes that have been read of the innermost element. -/
  nodes : List Node
  mode : Mode

namespace State

def start : State := { pending := [], nodes := [], mode := .text [] 0 }

/-- The end of a start tag. -/
def enter (s : State) (t : Tag) : State where
  pending := (t, s.nodes) :: s.pending
  nodes := []
  mode := .text [] 0

/-- The end of an empty element. -/
def add (s : State) (t : Tag) : State :=
  { s with nodes := s.nodes ++ [t.node []], mode := .text [] 0 }

/-- The end of an end tag. -/
def leave (s : State) (name : List Char) : Option State :=
  match s.pending with
  | (t, before) :: outer =>
    if t.name = name then
      some { pending := outer, nodes := before ++ [t.node s.nodes], mode := .text [] 0 }
    else none
  | [] => none

/-- Inside a start tag, after its name or the value of an attribute. -/
def afterToken (s : State) (t : Tag) (c : Char) : Option State :=
  if isSpace c then some { s with mode := .tag t }
  else if c = '>' then some (s.enter t)
  else if c = '/' then some { s with mode := .emptyEnd t }
  else none

end State

/-- Read one character; `none` for a document that is not well formed. -/
def step (s : State) (c : Char) : Option State :=
  match s.mode with
  | .text read brackets =>
    if c = '<' then some { s with nodes := s.nodes ++ textNodes read, mode := .markup }
    else if c = '&' then some { s with mode := .textReference read [] }
    else if c = '>' ∧ 2 ≤ brackets then none
    else some { s with mode := .text (read ++ [c]) (if c = ']' then brackets + 1 else 0) }
  | .textReference read name =>
    if c = ';' then (reference name).map fun d ↦ { s with mode := .text (read ++ [d]) 0 }
    else some { s with mode := .textReference read (name ++ [c]) }
  | .markup =>
    if c = '/' then some { s with mode := .closeName [] }
    else if isNameStart c then some { s with mode := .openName [c] }
    else none
  | .openName name =>
    if isNameChar c then some { s with mode := .openName (name ++ [c]) }
    else s.afterToken { name, attributes := [] } c
  | .tag t =>
    if isNameStart c then some { s with mode := .attributeName t [c] } else s.afterToken t c
  | .attributeName t name =>
    if isNameChar c then some { s with mode := .attributeName t (name ++ [c]) }
    else if isSpace c then some { s with mode := .equals t name }
    else if c = '=' then some { s with mode := .quote t name }
    else none
  | .equals t name =>
    if isSpace c then some s
    else if c = '=' then some { s with mode := .quote t name }
    else none
  | .quote t name =>
    if isSpace c then some s
    else if c = '"' ∨ c = '\x27' then some { s with mode := .value t name c [] }
    else none
  | .value t name quote read =>
    if c = quote then
      -- no two attributes of an element have the same name
      if name ∈ t.attributes.map Prod.fst then none
      else
        some { s with mode := .valueEnd { t with attributes := t.attributes ++ [(name, read)] } }
    else if c = '<' then none
    else if c = '&' then some { s with mode := .valueReference t name quote read [] }
    else some { s with mode := .value t name quote (read ++ [c]) }
  | .valueReference t name quote read entity =>
    if c = ';' then
      (reference entity).map fun d ↦ { s with mode := .value t name quote (read ++ [d]) }
    else some { s with mode := .valueReference t name quote read (entity ++ [c]) }
  | .valueEnd t => s.afterToken t c
  | .emptyEnd t => if c = '>' then some (s.add t) else none
  | .closeName name =>
    if name = [] then if isNameStart c then some { s with mode := .closeName [c] } else none
    else if isNameChar c then some { s with mode := .closeName (name ++ [c]) }
    else if isSpace c then some { s with mode := .closeEnd name }
    else if c = '>' then s.leave name
    else none
  | .closeEnd name =>
    if isSpace c then some s else if c = '>' then s.leave name else none

def run (s : State) (characters : List Char) : Option State := characters.foldlM step s

/-- White space between the tags. -/
def Node.isBlank : Node → Bool
  | .element _ _ _ => false
  | .text characters => characters.toList.all isSpace

/-- The one element that a document consists of. -/
def root (nodes : List Node) : Option Node :=
  match nodes.filter fun node ↦ !node.isBlank with
  | [.element name attributes children] => some (.element name attributes children)
  | _ => none

/-- The end of a document. -/
def finish (s : State) : Option Node :=
  match s.mode with
  | .text read _ => if s.pending.isEmpty then root (s.nodes ++ textNodes read) else none
  | _ => none

/-- The element that a text is the markup of, whatever characters the text consists of. -/
def read (markup : String) : Option Node := (run .start markup.toList).bind finish

/-- The element that a document consists of. -/
def parse (markup : String) : Option Node :=
  if markup.toList.all isChar then read markup else none

/-! ## Escaped text -/

def escapeChar (c : Char) : List Char :=
  if c = '&' then ['&', 'a', 'm', 'p', ';']
  else if c = '<' then ['&', 'l', 't', ';']
  else if c = '>' then ['&', 'g', 't', ';']
  else if c = '"' then ['&', 'q', 'u', 'o', 't', ';']
  else [c]

/-- A text without its special characters. -/
def escape (characters : List Char) : List Char := characters.flatMap escapeChar

theorem escape_cons (c : Char) (cs : List Char) : escape (c :: cs) = escapeChar c ++ escape cs :=
  List.flatMap_cons

theorem escapeChar_of_plain {c : Char} (h : c ∉ ['&', '<', '>', '"']) : escapeChar c = [c] := by
  simp only [List.mem_cons, List.not_mem_nil, or_false, not_or] at h
  rw [escapeChar, if_neg h.1, if_neg h.2.1, if_neg h.2.2.1, if_neg h.2.2.2]

/-- A text without special characters needs no escaping. -/
theorem escape_of_plain {characters : List Char}
    (h : ∀ c ∈ characters, c ∉ ['&', '<', '>', '"']) : escape characters = characters := by
  induction characters with
  | nil => rfl
  | cons c cs ih =>
    rw [escape_cons, escapeChar_of_plain (h c List.mem_cons_self),
      ih fun d hd ↦ h d (List.mem_cons_of_mem c hd)]
    rfl

/-- A character is special or needs no escaping. -/
theorem special_or_plain (c : Char) :
    (c = '&' ∨ c = '<' ∨ c = '>' ∨ c = '"') ∨ c ∉ ['&', '<', '>', '"'] := by
  simp only [List.mem_cons, List.not_mem_nil, or_false]
  exact Classical.em _

/-- Escaping needs no characters that a document may not contain, and hides none. -/
theorem all_isChar_escape (characters : List Char) :
    (escape characters).all isChar = characters.all isChar := by
  induction characters with
  | nil => rfl
  | cons c cs ih =>
    rw [escape_cons, List.all_append, ih, List.all_cons]
    congr 1
    rcases special_or_plain c with (rfl | rfl | rfl | rfl) | hplain
    · rfl
    · rfl
    · rfl
    · rfl
    · rw [escapeChar_of_plain hplain, List.all_cons, List.all_nil, Bool.and_true]

theorem run_append (s : State) (front back : List Char) :
    run s (front ++ back) = (run s front).bind fun s' ↦ run s' back := List.foldlM_append

theorem run_cons (s : State) (c : Char) (cs : List Char) :
    run s (c :: cs) = (step s c).bind fun s' ↦ run s' cs := rfl

section Escaped

variable (pending : List (Tag × List Node)) (nodes : List Node)

/-- One escaped character between two tags. -/
theorem run_escapeChar_text (read : List Char) (brackets : Nat) (c : Char) :
    ∃ brackets', run ⟨pending, nodes, .text read brackets⟩ (escapeChar c) =
      some ⟨pending, nodes, .text (read ++ [c]) brackets'⟩ := by
  rcases special_or_plain c with (rfl | rfl | rfl | rfl) | hplain
  · exact ⟨0, rfl⟩
  · exact ⟨0, rfl⟩
  · exact ⟨0, rfl⟩
  · exact ⟨0, rfl⟩
  · rw [escapeChar_of_plain hplain]
    simp only [List.mem_cons, List.not_mem_nil, or_false, not_or] at hplain
    refine ⟨if c = ']' then brackets + 1 else 0, ?_⟩
    simp [run, step, hplain.1, hplain.2.1, hplain.2.2.1]

/-- Escaped text between two tags is read as the text. -/
theorem run_escape_text (read : List Char) (brackets : Nat) (characters : List Char) :
    ∃ brackets', run ⟨pending, nodes, .text read brackets⟩ (escape characters) =
      some ⟨pending, nodes, .text (read ++ characters) brackets'⟩ := by
  induction characters generalizing read brackets with
  | nil => exact ⟨brackets, by rw [List.append_nil]; rfl⟩
  | cons c cs ih =>
    obtain ⟨brackets₁, hc⟩ := run_escapeChar_text pending nodes read brackets c
    obtain ⟨brackets₂, hcs⟩ := ih (read ++ [c]) brackets₁
    refine ⟨brackets₂, ?_⟩
    rw [escape_cons, run_append, hc, Option.bind_some, hcs, List.append_assoc]
    rfl

variable (t : Tag) (name : List Char)

/-- One escaped character between double quotes. -/
theorem run_escapeChar_value (read : List Char) (c : Char) :
    run ⟨pending, nodes, .value t name '"' read⟩ (escapeChar c) =
      some ⟨pending, nodes, .value t name '"' (read ++ [c])⟩ := by
  rcases special_or_plain c with (rfl | rfl | rfl | rfl) | hplain
  · rfl
  · rfl
  · rfl
  · rfl
  · rw [escapeChar_of_plain hplain]
    simp only [List.mem_cons, List.not_mem_nil, or_false, not_or] at hplain
    simp [run, step, hplain.1, hplain.2.1, hplain.2.2.2]

/-- Escaped text between double quotes is read as the text. -/
theorem run_escape_value (read characters : List Char) :
    run ⟨pending, nodes, .value t name '"' read⟩ (escape characters) =
      some ⟨pending, nodes, .value t name '"' (read ++ characters)⟩ := by
  induction characters generalizing read with
  | nil => rw [List.append_nil]; rfl
  | cons c cs ih =>
    rw [escape_cons, run_append, run_escapeChar_value, Option.bind_some, ih, List.append_assoc]
    rfl

end Escaped

/-! ## Tags and texts -/

/-- A piece of markup. -/
inductive Token
  | startTag (name : String) (attributes : List (String × String))
  | endTag (name : String)
  | emptyTag (name : String) (attributes : List (String × String))
  | text (characters : String)

def renderAttribute (a : String × String) : List Char :=
  ' ' :: (a.1.toList ++ ('=' :: '"' :: (escape a.2.toList ++ ['"'])))

def Token.render : Token → List Char
  | startTag name attributes =>
    '<' :: (name.toList ++ (attributes.flatMap renderAttribute ++ ['>']))
  | endTag name => '<' :: '/' :: (name.toList ++ ['>'])
  | emptyTag name attributes =>
    '<' :: (name.toList ++ (attributes.flatMap renderAttribute ++ [' ', '/', '>']))
  | text characters => escape characters.toList

def isName : List Char → Bool
  | [] => false
  | c :: cs => isNameStart c && cs.all isNameChar

/-- The names are names, and the attributes of an element have different ones. -/
def Token.isValid : Token → Bool
  | startTag name attributes | emptyTag name attributes =>
    isName name.toList && (attributes.map Prod.fst).all (fun a ↦ isName a.toList) &&
      decide (attributes.map Prod.fst).Nodup
  | endTag name => isName name.toList
  | text _ => true

def Tag.of (name : String) (attributes : List (String × String)) : Tag where
  name := name.toList
  attributes := attributes.map fun a ↦ (a.1.toList, a.2.toList)

@[simp]
theorem Tag.node_of (name : String) (attributes : List (String × String)) (children : List Node) :
    (Tag.of name attributes).node children = .element name attributes children := by
  simp [Tag.node, Tag.of, Function.comp_def]

/-- What has been read at the end of a token: the open elements, the nodes of the innermost one, and
the character data since the last tag. -/
structure Content where
  pending : List (Tag × List Node)
  nodes : List Node
  read : List Char

namespace Content

def start : Content := { pending := [], nodes := [], read := [] }

def flushed (c : Content) : List Node := c.nodes ++ textNodes c.read

/-- What a token adds; `none` for an end tag that closes nothing. -/
def push (c : Content) : Token → Option Content
  | .startTag name attributes =>
    some { pending := (.of name attributes, c.flushed) :: c.pending, nodes := [], read := [] }
  | .emptyTag name attributes =>
    some { c with nodes := c.flushed ++ [.element name attributes []], read := [] }
  | .endTag name =>
    match c.pending with
    | (t, before) :: outer =>
      if t.name = name.toList then
        some { pending := outer, nodes := before ++ [t.node c.flushed], read := [] }
      else none
    | [] => none
  | .text characters => some { c with read := c.read ++ characters.toList }

def pushAll (c : Content) (tokens : List Token) : Option Content := tokens.foldlM push c

/-- The reader's state at this point. -/
def state (c : Content) (brackets : Nat) : State where
  pending := c.pending
  nodes := c.nodes
  mode := .text c.read brackets

end Content

section Tokens

variable (pending : List (Tag × List Node)) (nodes : List Node)

/-- The rest of a name is read as such, in each of the places where a name is read. -/
theorem run_name {mode : List Char → Mode}
    (hmode : ∀ read c, isNameChar c = true →
      step ⟨pending, nodes, mode read⟩ c = some ⟨pending, nodes, mode (read ++ [c])⟩)
    (read : List Char) {name : List Char} (hname : name.all isNameChar = true) :
    run ⟨pending, nodes, mode read⟩ name = some ⟨pending, nodes, mode (read ++ name)⟩ := by
  induction name generalizing read with
  | nil => rw [List.append_nil]; rfl
  | cons c cs ih =>
    rw [List.all_cons, Bool.and_eq_true] at hname
    rw [run_cons, hmode read c hname.1, Option.bind_some, ih (read ++ [c]) hname.2,
      List.append_assoc]
    rfl

/-- A name has a first character and a rest. -/
theorem isName_cases {name : List Char} (h : isName name = true) :
    ∃ c cs, name = c :: cs ∧ isNameStart c = true ∧ cs.all isNameChar = true := by
  cases name with
  | nil => cases h
  | cons c cs =>
    rw [isName, Bool.and_eq_true] at h
    exact ⟨c, cs, rfl, h⟩

theorem run_openName {name : List Char} (h : isName name = true) :
    run ⟨pending, nodes, .markup⟩ name = some ⟨pending, nodes, .openName name⟩ := by
  obtain ⟨c, cs, rfl, hc, hcs⟩ := isName_cases h
  have hslash : c ≠ '/' := by
    rintro rfl
    cases hc
  have hstep : step ⟨pending, nodes, .markup⟩ c = some ⟨pending, nodes, .openName [c]⟩ := by
    simp [step, hslash, hc]
  rw [run_cons, hstep, Option.bind_some]
  apply run_name pending nodes _ [c] hcs
  intro read d hd
  simp [step, hd]

theorem run_closeName {name : List Char} (h : isName name = true) :
    run ⟨pending, nodes, .closeName []⟩ name = some ⟨pending, nodes, .closeName name⟩ := by
  obtain ⟨c, cs, rfl, hc, hcs⟩ := isName_cases h
  have hstep : step ⟨pending, nodes, .closeName []⟩ c = some ⟨pending, nodes, .closeName [c]⟩ := by
    simp [step, hc]
  rw [run_cons, hstep, Option.bind_some]
  -- an end tag's name is told apart from a missing one, so its first character stays in the mode
  apply @run_name pending nodes (fun read ↦ .closeName (c :: read)) _ [] cs hcs
  intro read d hd
  simp [step, hd]

theorem run_attributeName (t : Tag) {name : List Char} (h : isName name = true) :
    run ⟨pending, nodes, .tag t⟩ name = some ⟨pending, nodes, .attributeName t name⟩ := by
  obtain ⟨c, cs, rfl, hc, hcs⟩ := isName_cases h
  have hstep : step ⟨pending, nodes, .tag t⟩ c = some ⟨pending, nodes, .attributeName t [c]⟩ := by
    simp [step, hc]
  rw [run_cons, hstep, Option.bind_some]
  apply run_name pending nodes _ [c] hcs
  intro read d hd
  simp [step, hd]

/-- Whether a start tag has been read so far in this mode. -/
def Mode.AtEndOf (t : Tag) : Mode → Prop
  | .openName name => t = { name, attributes := [] }
  | .valueEnd t' => t' = t
  | _ => False

theorem step_of_atEndOf {t : Tag} {mode : Mode} (h : mode.AtEndOf t) {c : Char}
    (hc : isNameChar c = false) :
    step ⟨pending, nodes, mode⟩ c = State.afterToken ⟨pending, nodes, mode⟩ t c := by
  unfold Mode.AtEndOf at h
  split at h
  · subst h
    simp [step, hc]
  · subst h
    rfl
  · exact h.elim

/-- An attribute that the tag does not have yet is added to it. -/
theorem run_renderAttribute {t : Tag} {mode : Mode} (h : mode.AtEndOf t) {a : String × String}
    (hname : isName a.1.toList = true) (hfresh : a.1.toList ∉ t.attributes.map Prod.fst) :
    run ⟨pending, nodes, mode⟩ (renderAttribute a) = some ⟨pending, nodes,
      .valueEnd { t with attributes := t.attributes ++ [(a.1.toList, a.2.toList)] }⟩ := by
  have hspace : step ⟨pending, nodes, mode⟩ ' ' = some ⟨pending, nodes, .tag t⟩ :=
    step_of_atEndOf pending nodes h rfl
  have hquote : run ⟨pending, nodes, .attributeName t a.1.toList⟩ ['=', '"'] =
      some ⟨pending, nodes, .value t a.1.toList '"' []⟩ := rfl
  have hend : step ⟨pending, nodes, .value t a.1.toList '"' a.2.toList⟩ '"' = some ⟨pending, nodes,
      .valueEnd { t with attributes := t.attributes ++ [(a.1.toList, a.2.toList)] }⟩ := by
    simp only [step, if_pos, if_neg hfresh]
  have hpieces : renderAttribute a =
      ' ' :: (a.1.toList ++ (['=', '"'] ++ (escape a.2.toList ++ ['"']))) := rfl
  rw [hpieces, run_cons, hspace, Option.bind_some, run_append,
    run_attributeName pending nodes t hname, Option.bind_some, run_append, hquote,
    Option.bind_some, run_append, run_escape_value, Option.bind_some, run_cons, List.nil_append,
    hend]
  rfl

/-- Attributes with different names are added to a tag that has none of them. -/
theorem run_renderAttributes {attributes : List (String × String)}
    (hnames : (attributes.map Prod.fst).all (fun a ↦ isName a.toList) = true)
    (hnodup : (attributes.map Prod.fst).Nodup) {t : Tag} {mode : Mode} (h : mode.AtEndOf t)
    (hfresh : ∀ a ∈ attributes, a.1.toList ∉ t.attributes.map Prod.fst) :
    ∃ mode', mode'.AtEndOf { t with
        attributes := t.attributes ++ attributes.map fun a ↦ (a.1.toList, a.2.toList) } ∧
      run ⟨pending, nodes, mode⟩ (attributes.flatMap renderAttribute) =
        some ⟨pending, nodes, mode'⟩ := by
  induction attributes generalizing t mode with
  | nil => exact ⟨mode, by simpa using h, rfl⟩
  | cons a attributes ih =>
    rw [List.map_cons, List.all_cons, Bool.and_eq_true] at hnames
    rw [List.map_cons, List.nodup_cons] at hnodup
    have hfirst := run_renderAttribute pending nodes h hnames.1 (hfresh a List.mem_cons_self)
    have hothers : ∀ b ∈ attributes,
        b.1.toList ∉ (t.attributes ++ [(a.1.toList, a.2.toList)]).map Prod.fst := by
      intro b hb hmem
      rw [List.map_append, List.mem_append] at hmem
      rcases hmem with hmem | hmem
      · exact hfresh b (List.mem_cons_of_mem a hb) hmem
      · have hname : b.1 = a.1 := String.toList_inj.mp (List.mem_singleton.mp hmem)
        exact hnodup.1 (hname ▸ List.mem_map_of_mem hb)
    have hmode : Mode.AtEndOf
        { t with attributes := t.attributes ++ [(a.1.toList, a.2.toList)] } (.valueEnd _) := rfl
    obtain ⟨mode', hmode', hrest⟩ := ih hnames.2 hnodup.2 hmode hothers
    refine ⟨mode', by simpa using hmode', ?_⟩
    rw [List.flatMap_cons, run_append, hfirst, Option.bind_some, hrest]

/-- The name and the attributes of a start tag or an empty element. -/
theorem run_tagFront {name : String} {attributes : List (String × String)}
    (hname : isName name.toList = true)
    (hnames : (attributes.map Prod.fst).all (fun a ↦ isName a.toList) = true)
    (hnodup : (attributes.map Prod.fst).Nodup) :
    ∃ mode : Mode, mode.AtEndOf (.of name attributes) ∧
      run ⟨pending, nodes, .markup⟩ (name.toList ++ attributes.flatMap renderAttribute) =
        some ⟨pending, nodes, mode⟩ := by
  have hopened : Mode.AtEndOf { name := name.toList, attributes := [] } (.openName name.toList) :=
    rfl
  obtain ⟨mode, hmode, hrun⟩ := run_renderAttributes pending nodes hnames hnodup hopened
    fun a _ ↦ List.not_mem_nil
  refine ⟨mode, hmode, ?_⟩
  rw [run_append, run_openName pending nodes hname, Option.bind_some, hrun]

section Push

variable {c c' : Content} {name : String} {attributes : List (String × String)}

theorem step_less (c : Content) (brackets : Nat) :
    step (c.state brackets) '<' = some ⟨c.pending, c.flushed, .markup⟩ := rfl

theorem run_render_startTag (hvalid : (Token.startTag name attributes).isValid = true)
    (hpush : c.push (.startTag name attributes) = some c') (brackets : Nat) :
    run (c.state brackets) (Token.startTag name attributes).render = some (c'.state 0) := by
  rw [Token.isValid, Bool.and_eq_true, Bool.and_eq_true, decide_eq_true_iff] at hvalid
  obtain ⟨mode, hmode, hrun⟩ :=
    run_tagFront c.pending c.flushed hvalid.1.1 hvalid.1.2 hvalid.2
  have hend : step ⟨c.pending, c.flushed, mode⟩ '>' = some (c'.state 0) := by
    rw [step_of_atEndOf c.pending c.flushed hmode rfl, ← Option.some.inj hpush]
    rfl
  rw [Token.render, run_cons, step_less, Option.bind_some, ← List.append_assoc, run_append, hrun,
    Option.bind_some, run_cons, hend]
  rfl

theorem run_render_emptyTag (hvalid : (Token.emptyTag name attributes).isValid = true)
    (hpush : c.push (.emptyTag name attributes) = some c') (brackets : Nat) :
    run (c.state brackets) (Token.emptyTag name attributes).render = some (c'.state 0) := by
  rw [Token.isValid, Bool.and_eq_true, Bool.and_eq_true, decide_eq_true_iff] at hvalid
  obtain ⟨mode, hmode, hrun⟩ :=
    run_tagFront c.pending c.flushed hvalid.1.1 hvalid.1.2 hvalid.2
  have hspace : step ⟨c.pending, c.flushed, mode⟩ ' ' =
      some ⟨c.pending, c.flushed, .tag (.of name attributes)⟩ :=
    step_of_atEndOf c.pending c.flushed hmode rfl
  have hend : run ⟨c.pending, c.flushed, .tag (.of name attributes)⟩ ['/', '>'] =
      some (c'.state 0) := by
    rw [← Option.some.inj hpush, ← Tag.node_of]
    rfl
  rw [Token.render, run_cons, step_less, Option.bind_some, ← List.append_assoc, run_append, hrun,
    Option.bind_some, run_cons, hspace, Option.bind_some, hend]

/-- An end tag that closes the innermost element leaves it. -/
theorem leave_of_push (hpush : c.push (.endTag name) = some c') (mode : Mode) :
    State.leave ⟨c.pending, c.flushed, mode⟩ name.toList = some (c'.state 0) := by
  unfold Content.push at hpush
  unfold State.leave
  cases hpending : c.pending with
  | nil => simp [hpending] at hpush
  | cons frame outer =>
    by_cases hname : frame.1.name = name.toList
    · simp only [hpending, if_pos hname, Option.some.injEq] at hpush
      simp only [if_pos hname, ← hpush]
      rfl
    · simp [hpending, hname] at hpush

theorem run_render_endTag (hvalid : (Token.endTag name).isValid = true)
    (hpush : c.push (.endTag name) = some c') (brackets : Nat) :
    run (c.state brackets) (Token.endTag name).render = some (c'.state 0) := by
  have hopen : run (c.state brackets) ['<', '/'] = some ⟨c.pending, c.flushed, .closeName []⟩ :=
    rfl
  have hend : step ⟨c.pending, c.flushed, .closeName name.toList⟩ '>' = some (c'.state 0) := by
    rw [← leave_of_push hpush (.closeName name.toList)]
    obtain ⟨d, ds, hcons, -, -⟩ := isName_cases hvalid
    rw [hcons]
    rfl
  have hpieces : (Token.endTag name).render = ['<', '/'] ++ (name.toList ++ ['>']) := rfl
  rw [hpieces, run_append, hopen, Option.bind_some, run_append,
    run_closeName c.pending c.flushed hvalid, Option.bind_some, run_cons, hend]
  rfl

end Push

/-- The reader reads a valid token as what it adds. -/
theorem run_render {c c' : Content} {token : Token} (hvalid : token.isValid = true)
    (hpush : c.push token = some c') (brackets : Nat) :
    ∃ brackets', run (c.state brackets) token.render = some (c'.state brackets') := by
  cases token with
  | startTag name attributes => exact ⟨0, run_render_startTag hvalid hpush brackets⟩
  | endTag name => exact ⟨0, run_render_endTag hvalid hpush brackets⟩
  | emptyTag name attributes => exact ⟨0, run_render_emptyTag hvalid hpush brackets⟩
  | text characters =>
    obtain ⟨brackets', hrun⟩ :=
      run_escape_text c.pending c.nodes c.read brackets characters.toList
    refine ⟨brackets', ?_⟩
    rw [← Option.some.inj hpush]
    exact hrun

end Tokens

/-! ## The characters of markup -/

/-- The characters of a token that may be anything. -/
def Token.characters : Token → List Char
  | startTag _ attributes | emptyTag _ attributes => attributes.flatMap fun a ↦ a.2.toList
  | endTag _ => []
  | text characters => characters.toList

theorem isChar_of_inRanges {ranges : List (Nat × Nat)} {c : Char}
    (h : inRanges ranges c = true)
    (hranges : ∀ range ∈ ranges, 0x20 ≤ range.1 ∧
      (range.2 < 0xFFFE ∨ 0xFFFF < range.1)) : isChar c = true := by
  obtain ⟨range, hrange, hc⟩ := List.any_eq_true.mp h
  have hbounds := hranges range hrange
  rw [Bool.and_eq_true, decide_eq_true_iff, decide_eq_true_iff] at hc
  have hlow : 0x20 ≤ c.toNat := by omega
  have hnotFirst : c.toNat ≠ 0xFFFE := by omega
  have hnotSecond : c.toNat ≠ 0xFFFF := by omega
  simp [isChar, hlow, hnotFirst, hnotSecond]

theorem isChar_of_isNameChar {c : Char} (h : isNameChar c = true) : isChar c = true := by
  rw [isNameChar, Bool.or_eq_true] at h
  rcases h with h | h
  · exact isChar_of_inRanges h (by decide)
  · exact isChar_of_inRanges h (by decide)

theorem all_isChar_of_isName {name : List Char} (h : isName name = true) :
    name.all isChar = true := by
  obtain ⟨c, cs, rfl, hc, hcs⟩ := isName_cases h
  rw [List.all_cons, Bool.and_eq_true]
  constructor
  · apply isChar_of_isNameChar
    rw [isNameChar, hc, Bool.true_or]
  · rw [List.all_eq_true] at hcs ⊢
    exact fun d hd ↦ isChar_of_isNameChar (hcs d hd)

theorem all_isChar_renderAttributes {attributes : List (String × String)}
    (hnames : (attributes.map Prod.fst).all (fun a ↦ isName a.toList) = true) :
    (attributes.flatMap renderAttribute).all isChar =
      (attributes.flatMap fun a ↦ a.2.toList).all isChar := by
  induction attributes with
  | nil => rfl
  | cons a attributes ih =>
    rw [List.map_cons, List.all_cons, Bool.and_eq_true] at hnames
    have hname := all_isChar_of_isName hnames.1
    have hspace : isChar ' ' = true := rfl
    have hequals : isChar '=' = true := rfl
    have hquote : isChar '"' = true := rfl
    simp only [List.flatMap_cons, List.all_append, ih hnames.2, renderAttribute, List.all_cons,
      List.all_nil, all_isChar_escape, hname, hspace, hequals, hquote, Bool.true_and,
      Bool.and_true]

/-- The markup of a valid token adds only characters that a document may contain. -/
theorem all_isChar_render {token : Token} (hvalid : token.isValid = true) :
    token.render.all isChar = token.characters.all isChar := by
  have hless : isChar '<' = true := rfl
  have hgreater : isChar '>' = true := rfl
  have hslash : isChar '/' = true := rfl
  have hspace : isChar ' ' = true := rfl
  cases token with
  | startTag name attributes =>
    rw [Token.isValid, Bool.and_eq_true, Bool.and_eq_true] at hvalid
    simp only [Token.render, Token.characters, List.all_cons, List.all_append, List.all_nil,
      all_isChar_of_isName hvalid.1.1, all_isChar_renderAttributes hvalid.1.2, hless, hgreater,
      Bool.true_and, Bool.and_true]
  | endTag name =>
    simp only [Token.render, Token.characters, List.all_cons, List.all_append, List.all_nil,
      all_isChar_of_isName hvalid, hless, hgreater, hslash, Bool.and_true]
  | emptyTag name attributes =>
    rw [Token.isValid, Bool.and_eq_true, Bool.and_eq_true] at hvalid
    simp only [Token.render, Token.characters, List.all_cons, List.all_append, List.all_nil,
      all_isChar_of_isName hvalid.1.1, all_isChar_renderAttributes hvalid.1.2, hless, hgreater,
      hslash, hspace, Bool.true_and, Bool.and_true]
  | text characters => exact all_isChar_escape characters.toList

namespace Content

theorem pushAll_cons (c : Content) (token : Token) (tokens : List Token) :
    c.pushAll (token :: tokens) = (c.push token).bind fun c' ↦ c'.pushAll tokens := rfl

theorem pushAll_append (c : Content) (front back : List Token) :
    c.pushAll (front ++ back) = (c.pushAll front).bind fun c' ↦ c'.pushAll back :=
  List.foldlM_append

end Content

/-- The reader reads valid tokens as what they add. -/
theorem run_renderAll {tokens : List Token} (hvalid : tokens.all Token.isValid = true)
    {c c' : Content} (hpush : c.pushAll tokens = some c') (brackets : Nat) :
    ∃ brackets', run (c.state brackets) (tokens.flatMap Token.render) =
      some (c'.state brackets') := by
  induction tokens generalizing c brackets with
  | nil =>
    have hsame : c = c' := Option.some.inj hpush
    subst hsame
    exact ⟨brackets, rfl⟩
  | cons token tokens ih =>
    rw [List.all_cons, Bool.and_eq_true] at hvalid
    rw [Content.pushAll_cons] at hpush
    obtain ⟨d, hd, hrest⟩ := Option.bind_eq_some_iff.mp hpush
    obtain ⟨brackets₁, hfirst⟩ := run_render hvalid.1 hd brackets
    obtain ⟨brackets₂, hothers⟩ := ih hvalid.2 hrest brackets₁
    refine ⟨brackets₂, ?_⟩
    rw [List.flatMap_cons, run_append, hfirst, Option.bind_some, hothers]

/-- Markup of valid tokens that leave no element open is read as the one element among them. -/
theorem read_render {tokens : List Token} (hvalid : tokens.all Token.isValid = true)
    {nodes : List Node} {characters : List Char}
    (hpush : Content.start.pushAll tokens = some ⟨[], nodes, characters⟩) :
    read (String.ofList (tokens.flatMap Token.render)) = root (nodes ++ textNodes characters) := by
  obtain ⟨brackets, hrun⟩ := run_renderAll hvalid hpush 0
  rw [read, String.toList_ofList]
  exact congrArg (·.bind finish) hrun

/-- Such markup is a document unless one of the characters that it is given is none of XML's. -/
theorem parse_render {tokens : List Token} (hvalid : tokens.all Token.isValid = true)
    {nodes : List Node} {characters : List Char}
    (hpush : Content.start.pushAll tokens = some ⟨[], nodes, characters⟩) :
    parse (String.ofList (tokens.flatMap Token.render)) =
      if (tokens.flatMap Token.characters).all isChar then root (nodes ++ textNodes characters)
      else none := by
  have hcharacters : (tokens.flatMap Token.render).all isChar =
      (tokens.flatMap Token.characters).all isChar := by
    rw [List.all_flatMap, List.all_flatMap]
    rw [List.all_eq_true] at hvalid
    rw [Bool.eq_iff_iff, List.all_eq_true, List.all_eq_true]
    constructor
    · intro h token htoken
      rw [← all_isChar_render (hvalid token htoken)]
      exact h token htoken
    · intro h token htoken
      rw [all_isChar_render (hvalid token htoken)]
      exact h token htoken
  rw [parse, read_render hvalid hpush, String.toList_ofList, hcharacters]

end PhoneBridge.Library.Xml
