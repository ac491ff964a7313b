/-! The entries of a component's list. -/
namespace PageSketch

/-- A link of a menu or of a footer. -/
structure Link where
  text : String
  target : String
  deriving DecidableEq, Repr

/-- A titled part of an accordion or of tabs. -/
structure Section where
  title : String
  content : String
  deriving DecidableEq, Repr

/-- A picture of a carousel. -/
structure Slide where
  image : String
  title : String
  description : String
  deriving DecidableEq, Repr

/-- A picture of a gallery. -/
structure Picture where
  source : String
  alt : String
  caption : String
  deriving DecidableEq, Repr

/-- A plan of a price list; the price has no currency sign. -/
structure Plan where
  name : String
  price : String
  period : String
  features : List String
  highlighted : Bool
  buttonText : String
  deriving DecidableEq, Repr

/-- A customer's words. -/
structure Testimonial where
  quote : String
  author : String
  role : String
  company : String
  avatar : String
  rating : UInt8
  deriving DecidableEq, Repr

/-- A titled group of links of a footer. -/
structure LinkGroup where
  title : String
  links : List Link
  deriving DecidableEq, Repr

/-- A link to a page on a social platform. -/
structure SocialLink where
  platform : String
  url : String
  deriving DecidableEq, Repr

/-- An entry of a component's list. Each kind has its own variant; a footer has two. -/
inductive Item where
  | navLink (link : Link)
  | tableRow (cells : List String)
  | accordionEntry (entry : Section)
  | tabEntry (entry : Section)
  | slide (slide : Slide)
  | galleryImage (picture : Picture)
  | pricingPlan (plan : Plan)
  | testimonial (testimonial : Testimonial)
  | footerSection (group : LinkGroup)
  | socialLink (link : SocialLink)
  deriving DecidableEq, Repr

end PageSketch
