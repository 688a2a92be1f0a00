import CodeWorkspace.Text.CaseTable

/-!
# Lowercase texts

The lowercase form of a text takes each character to its lowercase form.  Two characters need
more: U+0130 becomes an `i` followed by a dot above, and a capital sigma becomes the final form of
the letter where it ends a word, that is, where a cased character stands before it and none
behind it, case-ignorable characters being passed over on either side.
-/

namespace CodeWorkspace.Text

/-- Whether a character lies in one of a list of inclusive ranges. -/
def inRanges (ranges : List (Nat × Nat)) (c : Char) : Bool :=
  ranges.any fun range => range.1 ≤ c.toNat && c.toNat ≤ range.2

/-- Whether a character has the property `Cased`. -/
def isCased (c : Char) : Bool := inRanges casedRanges c

/-- Whether a character has the property `Case_Ignorable`. -/
def isCaseIgnorable (c : Char) : Bool := inRanges caseIgnorableRanges c

/-- The lowercase form of a single character. -/
def lowerChar (c : Char) : Char :=
  let run? := lowercaseRuns.find? fun (first, last, distance, _) =>
    first ≤ c.toNat && c.toNat ≤ last && (c.toNat - first) % distance = 0
  match run? with
  | some (first, _, _, form) => Char.ofNat (form + (c.toNat - first))
  | none => c

/-- Whether the first character that is not case-ignorable exists and is cased. -/
def meetsCased (text : List Char) : Bool :=
  match text.dropWhile isCaseIgnorable with
  | [] => false
  | c :: _ => isCased c

/-- The lowercase form of a character between those before it, nearest first, and those behind. -/
def lowerAt (before : List Char) (c : Char) (behind : List Char) : List Char :=
  if c = 'Σ' then
    [if meetsCased before && !meetsCased behind then 'ς' else 'σ']
  else if c = 'İ' then ['i', Char.ofNat 0x307]
  else [lowerChar c]

/-- The lowercase form of the rest of a text, given what stands before it, nearest first. -/
def lowerFrom (before : List Char) : List Char → List Char
  | [] => []
  | c :: behind => lowerAt before c behind ++ lowerFrom (c :: before) behind

/-- The lowercase form of a text. -/
def lowercase (text : String) : String :=
  String.ofList (lowerFrom [] text.toList)

end CodeWorkspace.Text
