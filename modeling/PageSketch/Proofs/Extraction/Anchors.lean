import PageSketch.Proofs.Extraction.Footer
import PageSketch.Proofs.Extraction.Lists
import PageSketch.Proofs.Text.Slug

/-! Links into a page. The links that are read from a description lead to the words of their texts, whatever blanks
stand between these. -/
namespace PageSketch

open Text

/-- The link leads to the words of its own text, in lower case and with a hyphen between each two of them. -/
structure Link.LeadsToWords (link : Link) : Prop where
  target : link.target.toList = '#' :: lower (joined ['-'] (words link.text.toList))
  dark : ∀ char ∈ link.target.toList, isBlank char = false

private theorem Link.leadsToWords_ofName (name : Text) : (Link.ofName name).LeadsToWords := by
  have target : (Link.ofName name).target.toList = '#' :: slug name := String.toList_ofList
  have text : (Link.ofName name).text.toList = name := String.toList_ofList
  constructor
  · rw [target, text, slug_eq]
  · intro char member
    rw [target] at member
    rcases List.mem_cons.mp member with rfl | inSlug
    · decide
    · exact isBlank_of_mem_slug inSlug

private theorem leadsToWords_of_linkOn? {line : Text} {link : Link} (given : linkOn? line = some link) :
    link.LeadsToWords := by
  rw [linkOn?, Option.ite_none_right_eq_some] at given
  obtain ⟨_, same⟩ := given
  cases same
  exact Link.leadsToWords_ofName _

namespace Intent

variable (intent : Intent)

private theorem navigation_leadsToWords :
    (intent.extract .navigation).items = navigationListing.defaults intent.name ∨
      ∀ item ∈ (intent.extract .navigation).items, ∃ link, item = .navLink link ∧ link.LeadsToWords := by
  by_cases some : ∃ line ∈ intent.lines, navigationListing.Lists line
  · right
    intro item member
    have items : (intent.extract .navigation).items = navigationListing.entries intent.name intent.lines :=
      isRead_navigationListing.listed some
    rw [items, Listing.entries, List.mem_mapIdx] at member
    obtain ⟨place, _, rfl⟩ := member
    exact ⟨_, rfl, Link.leadsToWords_ofName _⟩
  · left
    apply isRead_navigationListing.unlisted
    intro line member lists
    exact some ⟨line, member, lists⟩

private theorem footer_leadsToWords {group : LinkGroup}
    (member : .footerSection group ∈ (intent.extract .footer).items)
    {link : Link} (linked : link ∈ group.links) : link.LeadsToWords := by
  have items : (intent.extract .footer).items =
      ((parts groupTitle? intent.lines).map Part.toGroup).map .footerSection ++
        intent.socialLinks.map .socialLink := by
    rw [← foldl_addGroupLine]
    rfl
  rw [items] at member
  rcases List.mem_append.mp member with inGroups | inSocial
  · obtain ⟨_, listed, same⟩ := List.mem_map.mp inGroups
    cases same
    obtain ⟨part, _, rfl⟩ := List.mem_map.mp listed
    obtain ⟨line, _, given⟩ := List.mem_filterMap.mp linked
    exact leadsToWords_of_linkOn? given
  · obtain ⟨_, _, same⟩ := List.mem_map.mp inSocial
    cases same

end Intent

/-- A text has the words that it is spaced of, and no others. Its slug is made of them, in lower case and with a
hyphen between each two; so there is no blank in it, and texts that differ in their blanks only have the same slug.
The links of a navigation bar, unless it has the default menu, and those of the groups of a footer lead to such
slugs. -/
theorem slugs_are_hyphenated_words :
    (∀ text, (∀ parts, IsSpaced parts text ↔ parts = words text) ∧
        slug text = lower (joined ['-'] (words text)) ∧ ∀ char ∈ slug text, isBlank char = false) ∧
      (∀ parts text other, IsSpaced parts text → IsSpaced parts other → slug text = slug other) ∧
      ∀ intent : Intent,
        ((intent.extract .navigation).items = navigationListing.defaults intent.name ∨
          ∀ item ∈ (intent.extract .navigation).items, ∃ link, item = .navLink link ∧ link.LeadsToWords) ∧
        ∀ group, .footerSection group ∈ (intent.extract .footer).items →
          ∀ link ∈ group.links, link.LeadsToWords := by
  refine ⟨?_, ?_, ?_⟩
  · intro text
    refine ⟨?_, slug_eq text, fun _ => isBlank_of_mem_slug⟩
    intro parts
    constructor
    · intro spaced
      exact spaced.words_eq.symm
    · rintro rfl
      exact isSpaced_words text
  · intro parts text other spaced otherSpaced
    rw [spaced.slug_eq, otherSpaced.slug_eq]
  · intro intent
    refine ⟨intent.navigation_leadsToWords, ?_⟩
    intro group member link linked
    exact intent.footer_leadsToWords member linked

theorem respaced_text_same_slug :
    IsSpaced ["Get".toList, "started".toList] "Get  started".toList ∧
      IsSpaced ["Get".toList, "started".toList] "\tGet\nstarted ".toList ∧
      slug "Get  started".toList = slug "\tGet\nstarted ".toList := by
  obtain ⟨texts, respaced, _⟩ := slugs_are_hyphenated_words
  have one : IsSpaced ["Get".toList, "started".toList] "Get  started".toList :=
    ((texts _).1 _).mpr (by decide)
  have other : IsSpaced ["Get".toList, "started".toList] "\tGet\nstarted ".toList :=
    ((texts _).1 _).mpr (by decide)
  exact ⟨one, other, respaced _ _ _ one other⟩

end PageSketch
