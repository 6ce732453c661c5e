import Handover.Text.Hex

/-!
JSON in ASCII: whatever is not a visible ASCII character is escaped, beyond the basic plane as a
surrogate pair.
-/

namespace Handover.Text.Json

def unitEscape (n : Nat) : List Char := '\\' :: 'u' :: hexDigits 4 n

def escapeChar (c : Char) : List Char :=
  if c = '\x22' then ['\\', '\x22']
  else if c = '\\' then ['\\', '\\']
  else if c = '\n' then ['\\', 'n']
  else if c = '\r' then ['\\', 'r']
  else if c = '\t' then ['\\', 't']
  else if c.toNat = 0x0c then ['\\', 'f']
  else if c.toNat = 0x08 then ['\\', 'b']
  else if 0x20 ≤ c.toNat ∧ c.toNat < 0x7f then [c]
  else if c.toNat < 0x10000 then unitEscape c.toNat
  else unitEscape (0xd800 + (c.toNat - 0x10000) / 0x400) ++
    unitEscape (0xdc00 + (c.toNat - 0x10000) % 0x400)

def text (s : String) : String :=
  String.ofList ('\x22' :: s.toList.flatMap escapeChar ++ ['\x22'])

/-- Items one on a line at the given depth, two blanks a level, between brackets. -/
def block (opening closing : String) (depth : Nat) (items : List String) : String :=
  let margin (depth : Nat) := "\n" ++ String.ofList (List.replicate (2 * depth) ' ')
  match items with
  | [] => opening ++ closing
  | _ => opening ++ margin (depth + 1) ++ String.intercalate ("," ++ margin (depth + 1)) items ++
      margin depth ++ closing

def list (depth : Nat) (texts : List String) : String :=
  block "[" "]" depth (texts.map text)

def object (fields : List (String × List String)) : String :=
  block "\x7b" "\x7d" 0 (fields.map fun (name, texts) => text name ++ ": " ++ list 1 texts)

end Handover.Text.Json
