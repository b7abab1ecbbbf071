import Quantities.Text.Blank
import Quantities.Terminal.Emoji.Names

namespace Quantities.Terminal.Emoji

structure Entry where
  glyph : List Char
  names : List (List Char)

/-- The entries of a list with commas between them. -/
def entries (list : String) : List Entry :=
  (list.toList.splitOn ',').filterMap fun e =>
    match (e.splitOnP Text.isSpace).filter (· ≠ []) with
    | glyph :: names => some { glyph, names }
    | [] => none

def glyphs : List Entry := entries glyphText

def people : List Entry := entries personText

def regions : List Entry := entries regionText

def bareRegions : List Entry := entries bareRegionText

def flaggedRegions : List Entry := entries flaggedRegionText

def find? (es : List Entry) (name : List Char) : Option (List Char) :=
  (es.find? fun e => e.names.contains name).map Entry.glyph

def dropEnd? (ending : String) (cs : List Char) : Option (List Char) :=
  if ending.toList.isSuffixOf cs then some (cs.take (cs.length - ending.length)) else none

/-- The ends of names that ask for a skin tone, with the modifiers they stand for. -/
def skinTones : List (String × Char) :=
  [("_light_skin_tone", '🏻'), ("_medium-light_skin_tone", '🏼'), ("_medium_skin_tone", '🏽'),
    ("_medium-dark_skin_tone", '🏾'), ("_dark_skin_tone", '🏿')]

/-- A modifier follows the first character, where it takes the place of a style. -/
def withTone (tone : Char) : List Char → List Char
  | c :: '\ufe0f' :: cs => c :: tone :: cs
  | c :: cs => c :: tone :: cs
  | [] => []

def toned? (name : List Char) : Option (List Char) :=
  skinTones.findSome? fun (ending, tone) =>
    (dropEnd? ending name).bind fun person => (find? people person).map (withTone tone)

/-- The flag of a region is made of the letters of the region. -/
def flag (region : List Char) : List Char :=
  region.map fun c => Char.ofNat ('🇦'.toNat + (c.toNat - 'a'.toNat))

def flag? (name : List Char) : Option (List Char) :=
  let start := "flag_for_".toList
  let region? := if start.isPrefixOf name then
      find? (regions ++ flaggedRegions) (name.drop start.length)
    else find? (regions ++ bareRegions) name
  region?.map flag

/-- Small letters, as far as there are any in names. -/
def small (c : Char) : Char :=
  if c.isUpper || ('À' ≤ c && c ≤ 'Þ' && c ≠ '×') then Char.ofNat (c.toNat + 32)
  else if c = '\u212a' then 'k'
  else if c = '\u212b' then 'å'
  else c

def ofName? (name : List Char) : Option (List Char) :=
  let name := name.map small
  (find? glyphs name).or ((find? people name).or ((toned? name).or (flag? name)))

/-- The emoji of a name that may end in a style. -/
def ofCode? (code : List Char) : Option (List Char) :=
  match dropEnd? "-text" code, dropEnd? "-emoji" code with
  | some name, _ => (ofName? name).map (· ++ ['\ufe0e'])
  | none, some name => (ofName? name).map (· ++ ['\ufe0f'])
  | none, none => ofName? code

/-- A code has no blanks and no colons inside. -/
def isCodeChar (c : Char) : Bool := c ≠ ':' && !Text.isSpace c

def replaceCodes (cs : List Char) : List Char :=
  match cs with
  | [] => []
  | ':' :: cs =>
    let code := cs.takeWhile isCodeChar
    match _h : cs.dropWhile isCodeChar with
    | ':' :: rest => (ofCode? code).getD (':' :: code ++ [':']) ++ replaceCodes rest
    | _ => ':' :: replaceCodes cs
  | c :: cs => c :: replaceCodes cs
termination_by cs.length
decreasing_by
  · have := (List.dropWhile_sublist (l := cs) isCodeChar).length_le
    simp only [_h, List.length_cons] at this
    simp only [List.length_cons]
    omega
  · simp
  · simp

end Quantities.Terminal.Emoji
