import PageSketch.Component.Look

/-! The colours of a theme, as properties of a style sheet. -/
namespace PageSketch

/-- The base colours of a theme. -/
structure Palette where
  background : String
  surface : String
  text : String
  muted : String
  border : String
  deriving DecidableEq, Repr

/-- The colours of a theme. -/
def Theme.palette : Theme → Palette
  | .light => ⟨"#ffffff", "#f5f5f5", "#1a1a1a", "#666666", "#e0e0e0"⟩
  | .dark => ⟨"#0a0a0b", "#141416", "#ffffff", "#888888", "#2a2a2f"⟩
  | .glass =>
    ⟨"rgba(10,10,20,0.8)", "rgba(255,255,255,0.1)", "#ffffff", "rgba(255,255,255,0.7)",
      "rgba(255,255,255,0.2)"⟩

namespace Palette

/-- The properties that hold the colours and an accent, in the order in which they are declared. -/
def properties (palette : Palette) (accent : Accent) : List (String × String) :=
  [("bg", palette.background), ("surface", palette.surface), ("text", palette.text),
    ("muted", palette.muted), ("border", palette.border), ("accent", accent.hex)]

/-- The declaration of one property, on a line of its own. -/
def declaration (name colour : String) : String := "  --centaur-" ++ name ++ ": " ++ colour ++ ";\n"

/-- The rule that declares the properties for the whole page. -/
def declarations (palette : Palette) (accent : Accent) : String :=
  ":root \x7b\n" ++
    String.join ((palette.properties accent).map fun (name, colour) => declaration name colour) ++
    "\x7d\n"

end Palette

end PageSketch
