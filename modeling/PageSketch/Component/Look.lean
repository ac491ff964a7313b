import PageSketch.Component.Kind

/-! How a component looks: theme, style and accent colour. -/
namespace PageSketch

/-- The colour theme of a page. -/
inductive Theme where
  | light | dark | glass
  deriving DecidableEq, Repr, Inhabited

namespace Theme

def all : List Theme := [light, dark, glass]

/-- The canonical name. -/
def name : Theme → String
  | light => "light"
  | dark => "dark"
  | glass => "glass"

def ofName? (name : String) : Option Theme := all.find? (·.name == name)

/-- The theme that a word means, in any letter case and with blanks around it. -/
def ofWord? (word : Text) : Option Theme := ofName? word.keyword

end Theme

/-- Which style sheets a page relies on. -/
inductive Style where
  | vanilla | tailwind
  deriving DecidableEq, Repr, Inhabited

namespace Style

def all : List Style := [vanilla, tailwind]

/-- The canonical name. -/
def name : Style → String
  | vanilla => "vanilla"
  | tailwind => "tailwind"

def ofName? (name : String) : Option Style := all.find? (·.name == name)

/-- The style that a word means; `css` is another word for vanilla. -/
def ofWord? (word : Text) : Option Style :=
  if word.keyword == "css" then some vanilla else ofName? word.keyword

end Style

/-- The accent colour of a page. -/
inductive Accent where
  | gold | emerald | coral | azure | purple | teal
  deriving DecidableEq, Repr, Inhabited

namespace Accent

def all : List Accent := [gold, emerald, coral, azure, purple, teal]

/-- The name of the colour. -/
def name : Accent → String
  | gold => "gold"
  | emerald => "emerald"
  | coral => "coral"
  | azure => "azure"
  | purple => "purple"
  | teal => "teal"

/-- The colour as the style sheet writes it. -/
def hex : Accent → String
  | gold => "#D4AF37"
  | emerald => "#00C853"
  | coral => "#FF6B6B"
  | azure => "#0088FF"
  | purple => "#9C27B0"
  | teal => "#00BCD4"

/-- The accent that a word means, in any letter case and with blanks around it. -/
def ofWord? (word : Text) : Option Accent := all.find? (·.name == word.keyword)

end Accent

end PageSketch
