import Handover.Text.Json

/-!
Documents read back. A document is a text, a list or an object of named documents. Its characters
are put together to lexemes, where texts are made of 16-bit units, and the lexemes to a value.
Whatever texts a document was written from, these are the texts that it is read as.
-/

namespace Handover.Text.Json

/-- What a document says. Numbers and constants are left out, as no document here has any. -/
inductive Document where
  | text (s : String)
  | list (items : List Document)
  | object (fields : List (String × Document))

def Document.ofTexts (texts : List String) : Document := .list (texts.map .text)

inductive Lexeme where
  | openList
  | closeList
  | openObject
  | closeObject
  | comma
  | colon
  | text (s : String)
  deriving DecidableEq

def units (c : Char) : List Nat :=
  if c.toNat < 0x10000 then [c.toNat]
  else [0xd800 + (c.toNat - 0x10000) / 0x400, 0xdc00 + (c.toNat - 0x10000) % 0x400]

def isHigh (unit : Nat) : Bool := 0xd800 ≤ unit && unit < 0xdc00

def isLow (unit : Nat) : Bool := 0xdc00 ≤ unit && unit < 0xe000

def ofUnits? : List Nat → Option (List Char)
  | [] => some []
  | unit :: rest =>
    if isLow unit then none
    else if isHigh unit then
      match rest with
      | low :: others =>
        if isLow low then
          let c := Char.ofNat (0x10000 + (unit - 0xd800) * 0x400 + (low - 0xdc00))
          (ofUnits? others).map (c :: ·)
        else none
      | [] => none
    else (ofUnits? rest).map (Char.ofNat unit :: ·)

def escaped? (c : Char) : Option Nat :=
  [('\x22', 0x22), ('\\', 0x5c), ('/', 0x2f), ('b', 0x08), ('f', 0x0c), ('n', 0x0a), ('r', 0x0d),
    ('t', 0x09)].lookup c

def mark? (c : Char) : Option Lexeme :=
  [('[', Lexeme.openList), (']', .closeList), ('\x7b', .openObject), ('\x7d', .closeObject),
    (',', .comma), (':', .colon)].lookup c

/-- The lexemes from a character on, where `text` holds the units of a text that has begun. -/
def lexemes? : (text : Option (List Nat)) → List Char → Option (List Lexeme)
  | none, [] => some []
  | none, c :: rest =>
    if c = ' ' ∨ c = '\n' ∨ c = '\r' ∨ c = '\t' then lexemes? none rest
    else if c = '\x22' then lexemes? (some []) rest
    else (mark? c).bind fun mark => (lexemes? none rest).map (mark :: ·)
  | some _, [] => none
  | some text, '\\' :: 'u' :: a :: b :: c :: d :: rest =>
    (ofHex? [a, b, c, d]).bind fun unit => lexemes? (some (text ++ [unit])) rest
  | some text, '\\' :: c :: rest =>
    (escaped? c).bind fun unit => lexemes? (some (text ++ [unit])) rest
  | some text, c :: rest =>
    if c = '\x22' then
      (ofUnits? text).bind fun cs => (lexemes? none rest).map (.text (String.ofList cs) :: ·)
    else if c.toNat < 0x20 ∨ c = '\\' then none
    else lexemes? (some (text ++ units c)) rest

inductive Begun where
  | list (items : List Document)
  | object (fields : List (String × Document)) (name : String)

mutual

/-- The document of lexemes, where a value is to come next, and the last list or object that has
begun is the first. -/
def value? : List Begun → List Lexeme → Option Document
  | begun, .text s :: rest => behind? begun (.text s) rest
  | begun, .openList :: .closeList :: rest => behind? begun (.list []) rest
  | begun, .openList :: rest => value? (.list [] :: begun) rest
  | begun, .openObject :: .closeObject :: rest => behind? begun (.object []) rest
  | begun, .openObject :: .text name :: .colon :: rest => value? (.object [] name :: begun) rest
  | _, _ => none

def behind? : List Begun → Document → List Lexeme → Option Document
  | [], value, [] => some value
  | .list items :: begun, value, .comma :: rest => value? (.list (items ++ [value]) :: begun) rest
  | .list items :: begun, value, .closeList :: rest => behind? begun (.list (items ++ [value])) rest
  | .object fields name :: begun, value, .comma :: .text next :: .colon :: rest =>
    value? (.object (fields ++ [(name, value)]) next :: begun) rest
  | .object fields name :: begun, value, .closeObject :: rest =>
    behind? begun (.object (fields ++ [(name, value)])) rest
  | _, _, _ => none

end

def read? (s : String) : Option Document := (lexemes? none s.toList).bind (value? [])

theorem ofUnits?_units (c : Char) (rest : List Nat) :
    ofUnits? (units c ++ rest) = (ofUnits? rest).map (c :: ·) := by
  have valid : c.toNat < 0xd800 ∨ 0xdfff < c.toNat ∧ c.toNat < 0x110000 := c.valid
  unfold units
  split
  next plain =>
    have low : ¬isLow c.toNat = true := by
      simp only [isLow, Bool.and_eq_true, decide_eq_true_eq]
      omega
    have high : ¬isHigh c.toNat = true := by
      simp only [isHigh, Bool.and_eq_true, decide_eq_true_eq]
      omega
    rw [List.singleton_append, ofUnits?.eq_def]
    simp only [if_neg low, if_neg high, Char.ofNat_toNat]
  next beyond =>
    have bound : (c.toNat - 0x10000) / 0x400 < 0x400 := by omega
    have below : (c.toNat - 0x10000) % 0x400 < 0x400 := by omega
    have notLow : ¬isLow (0xd800 + (c.toNat - 0x10000) / 0x400) = true := by
      simp only [isLow, Bool.and_eq_true, decide_eq_true_eq]
      omega
    have high : isHigh (0xd800 + (c.toNat - 0x10000) / 0x400) = true := by
      simp only [isHigh, Bool.and_eq_true, decide_eq_true_eq]
      omega
    have low : isLow (0xdc00 + (c.toNat - 0x10000) % 0x400) = true := by
      simp only [isLow, Bool.and_eq_true, decide_eq_true_eq]
      omega
    have whole : 0x10000 + (0xd800 + (c.toNat - 0x10000) / 0x400 - 0xd800) * 0x400 +
        (0xdc00 + (c.toNat - 0x10000) % 0x400 - 0xdc00) = c.toNat := by
      omega
    simp only [List.cons_append, List.nil_append, ofUnits?, if_neg notLow, if_pos high, if_pos low,
      whole, Char.ofNat_toNat]

theorem ofUnits?_flatMap (cs : List Char) : ofUnits? (cs.flatMap units) = some cs := by
  induction cs with
  | nil => rfl
  | cons c rest ih => rw [List.flatMap_cons, ofUnits?_units, ih, Option.map_some]

theorem ofHex?_append_digit (cs : List Char) {k : Nat} (digit : k < 16) :
    ofHex? (cs ++ [Nat.digitChar k]) = (ofHex? cs).map (16 * · + k) := by
  have value : ∀ k < 16, hexValue? (Nat.digitChar k) = some k := by decide
  unfold ofHex?
  rw [List.foldl_append, List.foldl_cons, List.foldl_nil, value k digit]
  cases List.foldl _ (some 0) cs <;> rfl

theorem ofHex?_hexDigits (width n : Nat) :
    ofHex? (hexDigits width n) = some (n % Nat.pow 16 width) := by
  induction width generalizing n with
  | zero => exact congrArg some (Nat.mod_one n).symm
  | succ width ih =>
    have power : Nat.pow 16 (width + 1) = 16 * Nat.pow 16 width := Nat.mul_comm _ _
    rw [hexDigits, ofHex?_append_digit _ (Nat.mod_lt n (by decide)), ih, Option.map_some, power,
      Nat.mod_mul, Nat.add_comm]

theorem lexemes?_unitEscape {n : Nat} (small : n < 0x10000) (text : List Nat) (rest : List Char) :
    lexemes? (some text) (unitEscape n ++ rest) = lexemes? (some (text ++ [n])) rest := by
  have read : ofHex? (hexDigits 4 n) = some n := by
    rw [ofHex?_hexDigits]
    exact congrArg some (Nat.mod_eq_of_lt small)
  have four : hexDigits 4 n = [Nat.digitChar (n / 16 / 16 / 16 % 16),
      Nat.digitChar (n / 16 / 16 % 16), Nat.digitChar (n / 16 % 16), Nat.digitChar (n % 16)] := rfl
  rw [four] at read
  rw [unitEscape, four]
  change (ofHex? _).bind _ = _
  rw [read]
  rfl

theorem lexemes?_plain {c : Char} (quote : c ≠ '\x22') (backslash : c ≠ '\\')
    (visible : 0x20 ≤ c.toNat) (text : List Nat) (rest : List Char) :
    lexemes? (some text) (c :: rest) = lexemes? (some (text ++ units c)) rest := by
  have allowed : ¬(c.toNat < 0x20 ∨ c = '\\') := by
    rintro (control | escape)
    · omega
    · exact backslash escape
  rw [lexemes?, if_neg quote, if_neg allowed]
  · intro _ _ _ _ _ escape
    exact absurd escape backslash
  · intro _ _ escape
    exact absurd escape backslash

theorem lexemes?_escapeChar (c : Char) (text : List Nat) (rest : List Char) :
    lexemes? (some text) (escapeChar c ++ rest) = lexemes? (some (text ++ units c)) rest := by
  by_cases quote : c = '\x22'
  · rw [quote]
    rfl
  by_cases backslash : c = '\\'
  · rw [backslash]
    rfl
  by_cases newline : c = '\n'
  · rw [newline]
    rfl
  by_cases carriage : c = '\r'
  · rw [carriage]
    rfl
  by_cases tab : c = '\t'
  · rw [tab]
    rfl
  rw [escapeChar, if_neg quote, if_neg backslash, if_neg newline, if_neg carriage, if_neg tab]
  by_cases feed : c.toNat = 0x0c
  · rw [if_pos feed, units, feed]
    rfl
  by_cases back : c.toNat = 0x08
  · rw [if_neg feed, if_pos back, units, back]
    rfl
  rw [if_neg feed, if_neg back]
  by_cases visible : 0x20 ≤ c.toNat ∧ c.toNat < 0x7f
  · rw [if_pos visible]
    exact lexemes?_plain quote backslash visible.1 text rest
  rw [if_neg visible, units]
  by_cases basic : c.toNat < 0x10000
  · rw [if_pos basic, if_pos basic, lexemes?_unitEscape basic]
  · have valid : c.toNat < 0x110000 := by
      have either : c.toNat < 0xd800 ∨ 0xdfff < c.toNat ∧ c.toNat < 0x110000 := c.valid
      omega
    rw [if_neg basic, if_neg basic, List.append_assoc, lexemes?_unitEscape (by omega),
      lexemes?_unitEscape (by omega), List.append_assoc, List.singleton_append]

theorem lexemes?_flatMap (cs : List Char) (text : List Nat) (rest : List Char) :
    lexemes? (some text) (cs.flatMap escapeChar ++ rest) =
      lexemes? (some (text ++ cs.flatMap units)) rest := by
  induction cs generalizing text with
  | nil => rw [List.flatMap_nil, List.flatMap_nil, List.nil_append, List.append_nil]
  | cons c others ih =>
    rw [List.flatMap_cons, List.append_assoc, lexemes?_escapeChar, ih, List.append_assoc,
      ← List.flatMap_cons]

def Reads (s : String) (found : List Lexeme) : Prop :=
  ∀ rest, lexemes? none (s.toList ++ rest) = (lexemes? none rest).map (found ++ ·)

theorem reads_text (s : String) : Reads (text s) [.text s] := by
  intro rest
  have read := lexemes?_flatMap s.toList [] ('\x22' :: rest)
  rw [List.nil_append] at read
  rw [text, String.toList_ofList, List.cons_append, List.cons_append, List.append_assoc,
    List.singleton_append]
  refine read.trans ?_
  rw [lexemes?, if_pos rfl, ofUnits?_flatMap, Option.bind_some, String.ofList_toList]
  · rfl
  · intro _ _ _ _ _ escape
    cases escape
  · intro _ _ escape
    cases escape

section Reads

variable {first second opening closing separator : String} {found others : List Lexeme}
  {start stop : Lexeme} {α : Type}

theorem reads_append (head : Reads first found) (tail : Reads second others) :
    Reads (first ++ second) (found ++ others) := by
  intro rest
  rw [String.toList_append, List.append_assoc, head, tail, Option.map_map]
  refine congrArg (Option.map · _) ?_
  funext later
  exact (List.append_assoc found others later).symm

theorem reads_blanks (count : Nat) : Reads (String.ofList (List.replicate count ' ')) [] := by
  intro rest
  rw [String.toList_ofList]
  induction count with
  | zero => exact Option.map_id_apply.symm
  | succ count ih =>
    rw [List.replicate_succ, List.cons_append, lexemes?, if_pos (.inl rfl), ih]

theorem reads_margin (depth : Nat) :
    Reads ("\n" ++ String.ofList (List.replicate (2 * depth) ' ')) [] := by
  have newline : Reads "\n" [] := fun rest => Option.map_id_apply.symm
  exact reads_append newline (reads_blanks (2 * depth))

theorem reads_intercalate {written : α → String} {lexemes : α → List Lexeme}
    (between : Reads separator [.comma]) (each : ∀ a, Reads (written a) (lexemes a))
    (items : List α) : Reads (String.intercalate separator (items.map written))
      ([.comma].intercalate (items.map lexemes)) := by
  induction items with
  | nil =>
    rw [List.map_nil, List.map_nil, String.intercalate_nil, List.intercalate_nil]
    exact fun rest => Option.map_id_apply.symm
  | cons item rest ih =>
    cases rest with
    | nil =>
      rw [List.map_singleton, List.map_singleton, String.intercalate_singleton,
        List.intercalate_singleton]
      exact each item
    | cons next rest =>
      rw [List.map_cons, List.map_cons, List.map_cons, List.map_cons,
        String.intercalate_cons_cons, List.intercalate_cons_cons]
      exact reads_append (reads_append (each item) between) ih

theorem reads_block {written : α → String} {lexemes : α → List Lexeme}
    (opens : Reads opening [start]) (closes : Reads closing [stop])
    (each : ∀ a, Reads (written a) (lexemes a)) (depth : Nat) (items : List α) :
    Reads (block opening closing depth (items.map written))
      (start :: [.comma].intercalate (items.map lexemes) ++ [stop]) := by
  cases items with
  | nil => exact reads_append opens closes
  | cons item rest =>
    have comma : Reads "," [.comma] := fun rest => rfl
    have between := reads_append comma (reads_margin (depth + 1))
    have within := reads_intercalate between each (item :: rest)
    have opened := reads_append (reads_append opens (reads_margin (depth + 1))) within
    have whole := reads_append (reads_append opened (reads_margin depth)) closes
    rwa [List.append_nil, List.append_nil, List.singleton_append] at whole

def listed (texts : List String) : List Lexeme :=
  .openList :: [.comma].intercalate (texts.map fun s => [.text s]) ++ [.closeList]

def fielded (fields : List (String × List String)) : List Lexeme :=
  .openObject :: [.comma].intercalate
    (fields.map fun field => .text field.1 :: .colon :: listed field.2) ++ [.closeObject]

theorem reads_list (depth : Nat) (texts : List String) : Reads (list depth texts) (listed texts) :=
  reads_block (fun _ => rfl) (fun _ => rfl) reads_text depth texts

theorem reads_object (fields : List (String × List String)) :
    Reads (object fields) (fielded fields) := by
  have colon : Reads ": " [.colon] := fun rest => rfl
  have field (field : String × List String) :=
    reads_append (reads_append (reads_text field.1) colon) (reads_list 1 field.2)
  exact reads_block (fun _ => rfl) (fun _ => rfl) field 0 fields

end Reads

def Parses (found : List Lexeme) (value : Document) : Prop :=
  ∀ begun rest, value? begun (found ++ rest) = behind? begun value rest

theorem intercalate_cons_eq_flatMap {α : Type} (separator first : List α) (others : List (List α)) :
    separator.intercalate (first :: others) = first ++ others.flatMap (separator ++ ·) := by
  induction others generalizing first with
  | nil => rw [List.intercalate_singleton, List.flatMap_nil, List.append_nil]
  | cons next others ih =>
    rw [List.intercalate_cons_cons, ih, List.flatMap_cons, List.append_assoc, List.append_assoc]

theorem behind?_list {α : Type} {lexemes : α → List Lexeme} {document : α → Document}
    (each : ∀ a, Parses (lexemes a) (document a)) (begun : List Begun) (items : List Document)
    (value : Document) (others : List α) (rest : List Lexeme) :
    behind? (.list items :: begun) value
        (others.flatMap (.comma :: lexemes ·) ++ .closeList :: rest) =
      behind? begun (.list (items ++ value :: others.map document)) rest := by
  induction others generalizing items value with
  | nil => rfl
  | cons next others ih =>
    rw [List.flatMap_cons, List.cons_append, List.cons_append, List.append_assoc, behind?, each, ih,
      List.append_assoc, List.singleton_append, List.map_cons]

theorem behind?_object {α : Type} {lexemes : α → List Lexeme} {document : α → Document}
    (each : ∀ a, Parses (lexemes a) (document a)) (begun : List Begun)
    (fields : List (String × Document)) (name : String) (value : Document)
    (others : List (String × α)) (rest : List Lexeme) :
    behind? (.object fields name :: begun) value
        (others.flatMap (fun field => .comma :: .text field.1 :: .colon :: lexemes field.2) ++
          .closeObject :: rest) =
      behind? begun (.object (fields ++ (name, value) ::
        others.map fun field => (field.1, document field.2))) rest := by
  induction others generalizing fields name value with
  | nil => rfl
  | cons next others ih =>
    rw [List.flatMap_cons, List.append_assoc]
    change value? (.object (fields ++ [(name, value)]) next.1 :: begun) (lexemes next.2 ++ _) = _
    rw [each, ih, List.append_assoc, List.singleton_append, List.map_cons]

theorem parses_list (texts : List String) : Parses (listed texts) (.ofTexts texts) := by
  intro begun rest
  cases texts with
  | nil => rfl
  | cons s others =>
    have text (s : String) : Parses [.text s] (.text s) := fun begun rest => rfl
    have items := behind?_list text begun [] (.text s) others rest
    rw [listed, List.map_cons, intercalate_cons_eq_flatMap, List.flatMap_map]
    simp only [List.cons_append, List.append_assoc, List.nil_append]
    exact items

theorem parses_object (fields : List (String × List String)) :
    Parses (fielded fields) (.object (fields.map fun field => (field.1, .ofTexts field.2))) := by
  intro begun rest
  cases fields with
  | nil => rfl
  | cons field others =>
    have later := behind?_object parses_list begun [] field.1 (.ofTexts field.2) others rest
    rw [fielded, List.map_cons, intercalate_cons_eq_flatMap, List.flatMap_map]
    simp only [List.cons_append, List.append_assoc, List.nil_append]
    change value? (.object [] field.1 :: begun) _ = _
    rw [parses_list]
    exact later

/-- A document is read as the object that it was written from. -/
theorem read?_object (fields : List (String × List String)) :
    read? (object fields ++ "\n") =
      some (.object (fields.map fun field => (field.1, .ofTexts field.2))) := by
  have newline : lexemes? none ['\n'] = some [] := rfl
  have found := reads_object fields ['\n']
  have parsed := parses_object fields [] []
  rw [List.append_nil] at parsed
  rw [read?, String.toList_append, show "\n".toList = ['\n'] from rfl, found, newline,
    Option.map_some, Option.bind_some, List.append_nil, parsed]
  rfl

end Handover.Text.Json
