import PageSketch.Extraction.Kinds
import PageSketch.Proofs.Text.Pieces

/-! Navigation bars, galleries and carousels, whose list lines are their entries: each line that names something
gives one entry, in order. A picture is numbered by the place of its entry, so entries stay as they are when lines
follow. -/
namespace PageSketch

/-- How the list lines of a kind are its entries. -/
structure Listing where
  kind : Kind
  /-- Whether a list line, in lower case, may give an entry. -/
  admits : Text → Bool := fun _ => true
  /-- The entry that a name gives at a place, in a component with a name of its own. -/
  item : (component : String) → (place : Nat) → (name : Text) → Item
  /-- The entries of a component that lists none. -/
  defaults : (component : String) → List Item

def navigationListing : Listing where
  kind := .navigation
  admits line := !line.mentionsAny ["logo", "brand", "button", "cta"]
  item _ _ name := .navLink ⟨String.ofList name, String.ofList (Text.anchor name)⟩
  defaults _ :=
    [.navLink ⟨"Home", "#"⟩, .navLink ⟨"Features", "#features"⟩, .navLink ⟨"About", "#about"⟩,
      .navLink ⟨"Contact", "#contact"⟩]

def galleryListing : Listing where
  kind := .gallery
  item component place name :=
    .galleryImage ⟨Text.placeholderImage component place 400 300, String.ofList name, String.ofList name⟩
  defaults component := (List.range 6).map fun place =>
    .galleryImage ⟨Text.placeholderImage component place 400 300, s!"Gallery image {place + 1}",
      s!"Image {place + 1}"⟩

def carouselListing : Listing where
  kind := .carousel
  item component place name :=
    .slide ⟨Text.placeholderImage component place 1200 500, String.ofList name, ""⟩
  defaults component := (List.range 4).map fun place =>
    .slide ⟨Text.placeholderImage component place 1200 500, s!"Slide {place + 1}", ""⟩

namespace Listing

variable (listing : Listing)

/-- The line gives an entry: it is a list line that is admitted and names something. -/
def Lists (line : Text) : Prop :=
  Text.isListItem line = true ∧ listing.admits line.lower = true ∧
    (Text.firstQuoted line).getD (Text.itemText line) ≠ []

instance (line : Text) : Decidable (listing.Lists line) :=
  inferInstanceAs (Decidable (_ ∧ _ ∧ _))

/-- What the lines that give an entry name: the first quoted text, or else all that the list line says. -/
def names (lines : List Text) : List Text :=
  (lines.filter fun line => listing.Lists line).map fun line =>
    (Text.firstQuoted line).getD (Text.itemText line)

def entries (component : String) (lines : List Text) : List Item :=
  (listing.names lines).mapIdx (listing.item component)

/-- What is read of a kind are the entries of its lines. -/
structure IsRead : Prop where
  /-- Some line gives an entry: there is one for each such line, and nothing else. -/
  listed {intent : Intent} (some : ∃ line ∈ intent.lines, listing.Lists line) :
    (intent.extract listing.kind).items = listing.entries intent.name intent.lines
  unlisted {intent : Intent} (none : ∀ line ∈ intent.lines, ¬ listing.Lists line) :
    (intent.extract listing.kind).items = listing.defaults intent.name
  /-- More lines leave the entries there are in their places. -/
  grows {intent : Intent} (some : ∃ line ∈ intent.lines, listing.Lists line) (more : Text) :
    (intent.extract listing.kind).items <+:
      ({ intent with description := intent.description ++ '\n' :: more }.extract listing.kind).items

variable {listing}

private theorem listNames_eq (lines : List Text) :
    listNames (lines.filter fun line => listing.admits line.lower) = listing.names lines := by
  rw [listNames, names, List.filter_map, List.filter_filter, List.filter_filter]
  refine congrArg (List.map Text.itemName) (List.filter_congr fun line _ => ?_)
  have named : (!(Text.itemName line).isEmpty) = true ↔
      (Text.firstQuoted line).getD (Text.itemText line) ≠ [] := by
    rw [Bool.not_eq_true', List.isEmpty_eq_false_iff, Text.itemName]
  rw [Bool.eq_iff_iff, decide_eq_true_iff, Bool.and_eq_true, Bool.and_eq_true, Function.comp_apply, named]
  constructor
  · rintro ⟨⟨named, item⟩, admitted⟩
    exact ⟨item, admitted, named⟩
  · rintro ⟨item, admitted, named⟩
    exact ⟨⟨named, item⟩, admitted⟩

private theorem names_eq_nil_iff {lines : List Text} :
    listing.names lines = [] ↔ ∀ line ∈ lines, ¬ listing.Lists line := by
  simp only [names, List.map_eq_nil_iff, List.filter_eq_nil_iff, decide_eq_true_eq]

private theorem isPrefix_entries_append (component : String) (lines more : List Text) :
    listing.entries component lines <+: listing.entries component (lines ++ more) := by
  rw [entries, entries, names, names, List.filter_append, List.map_append, List.mapIdx_append]
  exact List.prefix_append _ _

private theorem isRead (read : ∀ intent : Intent, (intent.extract listing.kind).items =
      orDefaults ((listNames (intent.lines.filter fun line => listing.admits line.lower)).mapIdx
        (listing.item intent.name)) (listing.defaults intent.name)) : listing.IsRead := by
  have listed {intent : Intent} (some : ∃ line ∈ intent.lines, listing.Lists line) :
      (intent.extract listing.kind).items = listing.entries intent.name intent.lines := by
    obtain ⟨line, member, lists⟩ := some
    rw [read, listNames_eq, orDefaults, if_neg]
    · rfl
    · rw [List.isEmpty_iff, List.mapIdx_eq_nil_iff, names_eq_nil_iff]
      exact fun none => none line member lists
  refine ⟨listed, fun {intent} none => ?_, fun {intent} some more => ?_⟩
  · rw [read, listNames_eq, orDefaults, if_pos]
    rw [List.isEmpty_iff, List.mapIdx_eq_nil_iff, names_eq_nil_iff]
    exact none
  · have lines : ({ intent with description := intent.description ++ '\n' :: more } : Intent).lines =
        intent.lines ++ Text.lines more := Text.lines_append _ _
    rw [listed some, listed, lines]
    · exact isPrefix_entries_append _ _ _
    · obtain ⟨line, member, lists⟩ := some
      exact ⟨line, by rw [lines]; exact List.mem_append_left _ member, lists⟩

end Listing

section Entries

variable {Entry : Type} (toItem : Entry → Item)

private theorem map_orDefaults (entries defaults : List Entry) :
    (orDefaults entries defaults).map toItem = orDefaults (entries.map toItem) (defaults.map toItem) := by
  cases entries <;> rfl

private theorem map_mapIdx (entryOf : Nat → Text → Entry) (names : List Text) :
    (names.mapIdx entryOf).map toItem = names.mapIdx fun place name => toItem (entryOf place name) := by
  refine List.ext_getElem? fun place => ?_
  simp only [List.getElem?_map, List.getElem?_mapIdx, Option.map_map, Function.comp_def]

end Entries

theorem isRead_navigationListing : navigationListing.IsRead := by
  refine Listing.isRead fun intent => ?_
  have admitted (line : Text) :
      (!isLogoLine line.lower && !isActionLine line.lower) = navigationListing.admits line.lower := by
    simp only [isLogoLine, isActionLine, navigationListing, Text.mentionsAny, List.any_cons, List.any_nil,
      Bool.or_false, Bool.not_or, Bool.and_assoc]
  have links (names : List Text) :
      (names.map Link.ofName).map .navLink = names.mapIdx (navigationListing.item intent.name) := by
    refine List.ext_getElem? fun place => ?_
    rw [List.map_map, List.getElem?_map, List.getElem?_mapIdx]
    rfl
  change (orDefaults (menuLinks intent.lines) defaultLinks).map Item.navLink = _
  rw [map_orDefaults, menuLinks, links]
  simp only [admitted]
  rfl

private theorem isRead_galleryListing : galleryListing.IsRead := by
  refine Listing.isRead fun intent => ?_
  have all : (intent.lines.filter fun line => galleryListing.admits line.lower) = intent.lines :=
    List.filter_eq_self.mpr fun _ _ => rfl
  change (orDefaults intent.galleryPictures intent.defaultPictures).map Item.galleryImage = _
  rw [all, map_orDefaults, Intent.galleryPictures, map_mapIdx, Intent.defaultPictures, List.map_map]
  rfl

private theorem isRead_carouselListing : carouselListing.IsRead := by
  refine Listing.isRead fun intent => ?_
  have all : (intent.lines.filter fun line => carouselListing.admits line.lower) = intent.lines :=
    List.filter_eq_self.mpr fun _ _ => rfl
  change (orDefaults intent.carouselSlides intent.defaultSlides).map Item.slide = _
  rw [all, map_orDefaults, Intent.carouselSlides, map_mapIdx, Intent.defaultSlides, List.map_map]
  rfl

/-- The number of a placeholder picture is at least 1 and at most its bound. -/
theorem Text.placeholderNumber_mem (name : String) (index : Nat) {bound : Nat} (positive : 1 ≤ bound) :
    1 ≤ placeholderNumber name index bound ∧ placeholderNumber name index bound ≤ bound := by
  refine ⟨Nat.le_add_left _ _, ?_⟩
  rw [placeholderNumber, Nat.max_eq_left positive]
  exact Nat.mod_lt _ positive

private theorem Text.placeholderImage_eq (name : String) (index width height : Nat) :
    placeholderImage name index width height =
      "https://picsum.photos/" ++ toString width ++ "/" ++ toString height ++ "?random=" ++
        toString (placeholderNumber name index 1000) := by
  unfold placeholderImage
  rfl

private theorem Listing.IsRead.item_cases {listing : Listing} (isRead : listing.IsRead) {intent : Intent} {place : Nat}
    {item : Item} (placed : (intent.extract listing.kind).items[place]? = some item) :
    (∃ name, item = listing.item intent.name place name) ∨ (listing.defaults intent.name)[place]? = some item := by
  by_cases some : ∃ line ∈ intent.lines, listing.Lists line
  · left
    rw [isRead.listed some, Listing.entries, List.getElem?_mapIdx, Option.map_eq_some_iff] at placed
    obtain ⟨name, _, rfl⟩ := placed
    exact ⟨name, rfl⟩
  · right
    simp only [not_exists, not_and] at some
    rwa [isRead.unlisted some] at placed

private theorem eq_of_getElem?_range {Entry : Type} {entryOf : Nat → Entry} {size place : Nat} {entry : Entry}
    (placed : ((List.range size).map entryOf)[place]? = some entry) : entry = entryOf place := by
  obtain ⟨_, rfl⟩ := List.getElem?_eq_some_iff.mp placed
  rw [List.getElem_map, List.getElem_range]

/-- The list lines of navigation bars, galleries and carousels are their entries one to one, and the default
entries stand in just where there are none. The picture at a place depends on nothing but the name of the component
and the place, and its number is between 1 and 1000; so more lines change no entry there is. -/
theorem entries_of_list_lines :
    navigationListing.IsRead ∧ galleryListing.IsRead ∧ carouselListing.IsRead ∧
      ∃ number : (component : String) → (place : Nat) → Nat,
        (∀ component place, 1 ≤ number component place ∧ number component place ≤ 1000) ∧
        ∀ (intent : Intent) (place : Nat) (item : Item),
          ((intent.extract .gallery).items[place]? = some item → ∃ alt caption, item = .galleryImage
            ⟨"https://picsum.photos/400/300?random=" ++ toString (number intent.name place), alt, caption⟩) ∧
          ((intent.extract .carousel).items[place]? = some item → ∃ title, item = .slide
            ⟨"https://picsum.photos/1200/500?random=" ++ toString (number intent.name place), title, ""⟩) := by
  have galleryAddress : "https://picsum.photos/" ++ toString 400 ++ "/" ++ toString 300 ++ "?random=" =
    "https://picsum.photos/400/300?random=" := by decide +kernel
  have carouselAddress : "https://picsum.photos/" ++ toString 1200 ++ "/" ++ toString 500 ++ "?random=" =
    "https://picsum.photos/1200/500?random=" := by decide +kernel
  refine ⟨isRead_navigationListing, isRead_galleryListing, isRead_carouselListing,
    fun component place => Text.placeholderNumber component place 1000,
    fun component place => Text.placeholderNumber_mem component place (by decide),
    fun intent place item => ⟨?_, ?_⟩⟩
  · intro placed
    have address := Text.placeholderImage_eq intent.name place 400 300
    rw [galleryAddress] at address
    rw [← address]
    rcases isRead_galleryListing.item_cases placed with ⟨name, rfl⟩ | default
    · exact ⟨_, _, rfl⟩
    · rw [eq_of_getElem?_range default]
      exact ⟨_, _, rfl⟩
  · intro placed
    have address := Text.placeholderImage_eq intent.name place 1200 500
    rw [carouselAddress] at address
    rw [← address]
    rcases isRead_carouselListing.item_cases placed with ⟨name, rfl⟩ | default
    · exact ⟨_, rfl⟩
    · rw [eq_of_getElem?_range default]
      exact ⟨_, rfl⟩

/-- A second slide leaves the first one in its place. -/
theorem first_slide_kept :
    (Intent.extract ⟨"Views", "Autoplay\n- Sea".toList, ∅, 2024⟩ .carousel).items <+:
      (Intent.extract ⟨"Views", "Autoplay\n- Sea".toList ++ '\n' :: "- 'Green' hills".toList, ∅, 2024⟩
        .carousel).items :=
  @Listing.IsRead.grows _ entries_of_list_lines.2.2.1 ⟨"Views", "Autoplay\n- Sea".toList, ∅, 2024⟩
    ⟨"- Sea".toList, by decide +kernel, by decide +kernel⟩ "- 'Green' hills".toList

end PageSketch
