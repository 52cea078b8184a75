import ChangeGate.Markup.Emoji.Names
import ChangeGate.Text.Blank
import ChangeGate.Text.Search

/-! # Pictures in markup

A name between two colons stands for a picture.  `withPictures` puts the pictures in the place of
their names; a name that is not known stays as it is, with both of its colons. -/

namespace ChangeGate.Markup.Emoji

/-! ### Known names -/

/-- A picture with its names, each with whether the picture comes in tones of skin. -/
structure Entry where
  names : List (List Char × Bool)
  picture : List Char
  deriving DecidableEq, Repr

/-- A name, and whether the picture comes in tones of skin. -/
def readName (cs : List Char) : List Char × Bool :=
  match cs.reverse with
  | '~' :: r => (r.reverse, true)
  | _ => (cs, false)

/-- The entry that a word writes. -/
def readEntry (word : List Char) : Entry where
  names := (Text.commaPieces (word.takeWhile (· != '='))).map readName
  picture := (word.dropWhile (· != '=')).drop 1

/-- The entries of a table, which stand between blanks. -/
def readTable (lines : List String) : List Entry :=
  lines.flatMap fun line => (Text.splitAt ' ' line.toList).map readEntry

/-- The letter of a flag. -/
def flagLetter (c : Char) : Char := Char.ofNat (0x1F1E6 + (c.toNat - 'A'.toNat))

/-- An entry whose picture is the flag of a country. -/
def Entry.asFlag (e : Entry) : Entry := { e with picture := e.picture.map flagLetter }

/-- Pictures that are no flags of countries. -/
def pictures : List Entry :=
  [signs, scenery, people, transport, supplement, joined].flatMap readTable

/-- Flags by the names of their countries. -/
def countryFlags : List Entry := (readTable countries).map Entry.asFlag

/-- Flags by other names. -/
def flags : List Entry := (readTable otherFlags).map Entry.asFlag

/-- The entry of a name, and whether its picture comes in tones of skin. -/
def known? (entries : List Entry) (name : List Char) : Option (List Char × Bool) :=
  entries.findSome? fun e => (e.names.lookup name).map (e.picture, ·)

/-- The tones of skin by the ends of names. -/
def tones : List (List Char × Char) :=
  [("_light_skin_tone".toList, '🏻'), ("_medium-light_skin_tone".toList, '🏼'),
   ("_medium_skin_tone".toList, '🏽'), ("_medium-dark_skin_tone".toList, '🏾'),
   ("_dark_skin_tone".toList, '🏿')]

/-- What makes the sign in front of it a picture. -/
def pictureSelector : Char := '\ufe0f'

/-- What makes the sign in front of it a letter. -/
def letterSelector : Char := '\ufe0e'

/-- A picture in a tone of skin, which follows its first sign in the place of a selector. -/
def inTone (tone : Char) : List Char → List Char
  | c :: r => c :: tone :: if r.head? == some pictureSelector then r.drop 1 else r
  | [] => []

/-- The text in front of an ending. -/
def before? (ending cs : List Char) : Option (List Char) :=
  if ending.isSuffixOf cs then some (cs.take (cs.length - ending.length)) else none

/-- The picture of a name in a tone of skin. -/
def tonedPicture? (name : List Char) : Option (List Char) :=
  tones.findSome? fun (ending, tone) => do
    let (picture, hasTones) ← known? pictures (← before? ending name)
    if hasTones then some (inTone tone picture) else none

/-- The flag of a country that is asked for as one. -/
def countryFlag? (name : List Char) : Option (List Char) := do
  let (flag, _) ← known? countryFlags (← Text.behind? "flag_for_".toList name)
  return flag

/-- The picture of a name in small letters. -/
def picture? (name : List Char) : Option (List Char) :=
  ((known? (pictures ++ countryFlags ++ flags) name).map (·.1)).or
    ((tonedPicture? name).or (countryFlag? name))

/-! ### Replacing names -/

/-- The small letter of a letter that occurs in names; other characters stay as they are. -/
def small (c : Char) : Char :=
  let n := c.toNat
  if 0xC0 ≤ n && n ≤ 0xDE && n != 0xD7 then Char.ofNat (n + 0x20)
  else if n == 0x212A then 'k'
  else if n == 0x212B then 'å'
  else c.toLower

/-- A name with the selector that it ends in, if there is one. -/
def selected (name : List Char) : List Char × List Char :=
  match before? "-emoji".toList name, before? "-text".toList name with
  | some r, _ => (r, [pictureSelector])
  | none, some r => (r, [letterSelector])
  | none, none => (name, [])

/-- The picture of what stands between two colons. -/
def codePicture? (code : List Char) : Option (List Char) :=
  let (name, selector) := selected code
  (picture? (name.map small)).map (· ++ selector)

/-- What stands between a colon and the next one, without blanks, and what follows. -/
def code? (cs : List Char) : Option (List Char × List Char) :=
  let code := cs.takeWhile fun c => c != ':' && !Text.isBlank c
  match cs.drop code.length with
  | ':' :: rest => some (code, rest)
  | _ => none

theorem code?_rest_lt {cs code rest : List Char} (h : code? cs = some (code, rest)) :
    rest.length < cs.length := by
  unfold code? at h
  dsimp only at h
  split at h
  · rename_i hd
    cases h
    have := congrArg List.length hd
    simp only [List.length_drop, List.length_cons] at this
    omega
  · cases h

/-- A text with pictures in the place of their names. -/
def withPictures (cs : List Char) : List Char :=
  match cs with
  | [] => []
  | c :: r =>
    if c = ':' then
      match h : code? r with
      | some (code, rest) =>
        have := code?_rest_lt h
        (codePicture? code).getD (':' :: code ++ [':']) ++ withPictures rest
      | none => c :: withPictures r
    else c :: withPictures r
  termination_by cs.length

end ChangeGate.Markup.Emoji
