import TaggedPage.Config.File
import TaggedPage.Proofs.Json.Schema

/-! # Keys of configuration files

A configuration file is refused if it has a key that its place does not know, at the top
level, in a section or in the font files (`ofJson_refuses_stray_keys`). The object of a colour
is the exception: its reader takes the three channels and passes over what else there is
(`color_of_channels`), so a stray key there goes unnoticed (`ofJson_accepts_stray_channel`).
-/

namespace TaggedPage.Config.File

open Json (Field Guards Members Node Record Schema Shape Strays)
open Json.Grammar (Document)

def pageSchema : Schema := .record [("width", .any), ("height", .any)]

def marginSchema : Schema := .record [("top", .any), ("left", .any)]

def fontsSchema : Schema :=
  .record [("regular", .any), ("bold", .any), ("italic", .any), ("boldItalic", .any)]

def outputSchema : Schema := .record [("dir", .any), ("name", .any)]

/-- The keys of a colour that is written as an object. -/
def colorSchema : Schema := .record [("r", .any), ("g", .any), ("b", .any)]

/-- The keys of a configuration file, given those of its colour. -/
def schema (color : Schema) : Schema :=
  .record
    [("page", pageSchema), ("fontSize", .any), ("lineHeight", .any), ("color", color),
      ("margin", marginSchema), ("fonts", fontsSchema), ("fontFamily", .any),
      ("output", outputSchema)]

theorem guards_page : Guards pageSchema pageRecord.read := by
  have hnumber := Guards.single.option
  refine .record ?_ rfl
  exact .cons (hnumber.field ..) (.cons (hnumber.field ..) .nil)

theorem guards_margin : Guards marginSchema marginRecord.read := by
  have hnumber := Guards.single.option
  refine .record ?_ rfl
  exact .cons (hnumber.field ..) (.cons (hnumber.field ..) .nil)

theorem guards_fonts : Guards fontsSchema fontsRecord.read := by
  have htext := Guards.text.option
  refine .record ?_ rfl
  exact .cons (Guards.text.field ..) <| .cons (htext.field ..) <| .cons (htext.field ..) <|
    .cons (htext.field ..) .nil

theorem guards_output : Guards outputSchema outputRecord.read := by
  refine .record ?_ rfl
  exact .cons (Guards.path.option.field ..) (.cons (Guards.text.option.field ..) .nil)

/-- A file guards all its keys but those of its colour. -/
theorem guards_file : Guards (schema .any) record.read := by
  have hnumber := Guards.single.option
  refine .record ?_ rfl
  exact .cons (guards_page.field ..) <| .cons (hnumber.field ..) <| .cons (hnumber.field ..) <|
    .cons (Guards.color.option.field ..) <| .cons (guards_margin.field ..) <|
    .cons (guards_fonts.option.field ..) <| .cons (Guards.text.option.field ..) <|
    .cons (guards_output.field ..) .nil

/-- A JSON text in which an object has a key outside the schema of its place, at the top level
or at any depth, is not a configuration file. In the place of a colour any value may stand. -/
theorem ofJson_refuses_stray_keys (d : Document) (h : Strays (schema .any) d.value.shape) :
    ∃ e, ofJson d.text = .error e :=
  guards_file.decode h

/-- The text of a file with a misspelt width in its page. -/
def misspelt : Document where
  before := []
  value :=
    .object (.plain ['p', 'a', 'g', 'e'] (by decide))
      (.object (.plain ['w', 'i', 'd', 'h', 't'] (by decide)) (.digit '9' rfl) (.close []))
      (.close [.lineFeed])
  after := [.lineFeed]

theorem ofJson_refuses_misspelt :
    misspelt.text = "\x7b\"page\":\x7b\"widht\":9\x7d\n\x7d\n" ∧
      Strays (schema .any) misspelt.value.shape ∧ ∃ e, ofJson misspelt.text = .error e := by
  have hstrays : Strays (schema .any) misspelt.value.shape := by
    refine .member (.head _) rfl ?_
    exact .key (.head _) rfl
  exact ⟨by decide +kernel, hstrays, ofJson_refuses_stray_keys misspelt hstrays⟩

/-- The object of a colour counts only for its channels: two objects that have no faults and
agree on them are the same colour. -/
theorem color_of_channels {start start' : Nat} {members members' : Members}
    (h : members.firstFault? = none) (h' : members'.firstFault? = none)
    (hchannels : ∀ key ∈ ['r', 'g', 'b'], members.valuesOf [key] = members'.valuesOf [key]) :
    Node.color (.object start members) = Node.color (.object start' members') := by
  have hchannel : ∀ key ∈ ['r', 'g', 'b'], members.channelOf? key = members'.channelOf? key := by
    intro key hkey
    rw [Members.channelOf?, Members.channelOf?, hchannels key hkey]
  simp only [Node.color, Node.firstFault?, h, h', hchannel 'r' (by decide),
    hchannel 'g' (by decide), hchannel 'b' (by decide)]

/-- The text of a file whose colour has a fourth channel. -/
def translucent : Document where
  before := []
  value :=
    .object (.plain ['c', 'o', 'l', 'o', 'r'] (by decide))
      (.object (.plain ['r'] (by decide)) (.digit '1' rfl)
        (.member [] (.plain ['g'] (by decide)) (.digit '2' rfl)
          (.member [] (.plain ['b'] (by decide)) (.digit '3' rfl)
            (.member [] (.plain ['a'] (by decide)) (.digit '4' rfl) (.close [])))))
      (.close [])
  after := []

/-- A colour refuses no keys, although only the three channels are in its schema. -/
theorem ofJson_accepts_stray_channel :
    translucent.text =
        "\x7b\"color\":\x7b\"r\":1,\"g\":2,\"b\":3,\"a\":4\x7d\x7d" ∧
      Strays (schema colorSchema) translucent.value.shape ∧
      ∃ file, ofJson translucent.text = .ok file ∧ file.color = some ⟨1, 2, 3⟩ := by
  refine ⟨by decide +kernel, ?_, ?_⟩
  · refine .member (.head _) rfl ?_
    exact .key (.tail _ (.tail _ (.tail _ (.head _)))) rfl
  · have hcolor : (ofJson translucent.text).toOption.map (·.color) = some (some ⟨1, 2, 3⟩) := by
      decide +kernel
    cases hfile : ofJson translucent.text with
    | error e => rw [hfile] at hcolor; cases hcolor
    | ok file =>
      rw [hfile] at hcolor
      exact ⟨file, rfl, Option.some.inj hcolor⟩

end TaggedPage.Config.File
