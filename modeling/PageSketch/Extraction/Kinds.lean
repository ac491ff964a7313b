import PageSketch.Extraction.Footer
import PageSketch.Extraction.Form
import PageSketch.Extraction.Pricing
import PageSketch.Extraction.Roles
import PageSketch.Extraction.Sections
import PageSketch.Extraction.Table
import PageSketch.Extraction.Testimonials

/-! Reading a description as a component of any kind. -/
namespace PageSketch

/-- The parts that a description has as a component of the kind. -/
def Intent.extract (intent : Intent) : Kind → Extraction
  | .form => intent.extractForm
  | .hero => intent.extractHero
  | .card => intent.extractCard
  | .navigation => intent.extractNavigation
  | .modal => intent.extractModal
  | .table => intent.extractTable
  | .footer => intent.extractFooter
  | .gallery => intent.extractGallery
  | .accordion => intent.extractAccordion
  | .tabs => intent.extractTabs
  | .carousel => intent.extractCarousel
  | .pricing => intent.extractPricing
  | .testimonial => intent.extractTestimonials

end PageSketch
