import PageSketch.Extraction.Lists

/-! Footers: groups of links, social platforms and the copyright line. -/
namespace PageSketch

/-- The social platforms in the order of their links. -/
def socialPlatforms : List String :=
  ["facebook", "twitter", "instagram", "linkedin", "github", "youtube", "tiktok", "discord"]

def defaultCopyright (year : Int) : String := s!"© {year} Company. All rights reserved."

/-- The title of a group of links, when the line starts with a hash. -/
def groupTitle? (line : Text) : Option Text :=
  if line.head? = some '#' then some (Text.trim (line.dropWhile (· == '#'))) else none

/-- The group of links after one more list line. -/
def LinkGroup.read (group : LinkGroup) (line : Text) : LinkGroup :=
  { group with links := group.links ++ (listNames [line]).map Link.ofName }

/-- The groups of links after one more line: a header opens one, a list line goes to the last. -/
def addGroupLine (groups : List LinkGroup) (line : Text) : List LinkGroup :=
  match groupTitle? line, groups.getLast? with
  | some title, _ => groups ++ [⟨String.ofList title, []⟩]
  | none, some group => groups.dropLast ++ [group.read line]
  | none, none => groups

/-- The links to the platforms that a description mentions. -/
def Intent.socialLinks (intent : Intent) : List SocialLink :=
  (socialPlatforms.filter intent.mentions).map fun platform =>
    ⟨platform, "https://" ++ platform ++ ".com"⟩

/-- The copyright line: the first quoted text on a line about copyright, else the default. -/
def Intent.copyright (intent : Intent) : String :=
  ((Text.firstQuotedLine (Text.linesMentioning ["copyright", "©", "(c)"] intent.lines)).map
    String.ofList).getD (defaultCopyright intent.year)

/-- The groups, links and options of a footer. -/
def Intent.extractFooter (intent : Intent) : Extraction :=
  { items := (intent.lines.foldl addGroupLine []).map .footerSection ++
      intent.socialLinks.map .socialLink
    options := .ofList
      [("copyright", .text intent.copyright),
        ("newsletter", .bool (intent.mentionsAny ["newsletter", "subscribe"]))] }

end PageSketch
