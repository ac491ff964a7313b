import PageSketch.Page.Rule

/-! The style rules of the pages: common ones, and those of each kind of component. -/
namespace PageSketch.Stock.Rules

/-- Rules that every vanilla page starts from. -/
def base : List Rule :=
  [⟨"*", [("margin", "0"), ("padding", "0"), ("box-sizing", "border-box")]⟩,
    ⟨"body", [("font-family", "'Inter', sans-serif"), ("background", "var(--centaur-bg)"),
      ("color", "var(--centaur-text)"), ("line-height", "1.6"), ("min-height", "100vh")]⟩,
    ⟨".btn", [("display", "inline-block"), ("padding", "14px 28px"), ("border-radius", "12px"),
      ("font-size", "16px"), ("font-weight", "700"), ("text-decoration", "none"),
      ("border", "none"), ("cursor", "pointer"), ("transition", "all 0.3s")]⟩,
    ⟨".btn-primary", [("background", "var(--centaur-accent)"), ("color", "#0a0a0b")]⟩,
    ⟨".btn-primary:hover", [("transform", "translateY(-2px)"),
      ("box-shadow", "0 12px 35px color-mix(in srgb, var(--centaur-accent) 25%, transparent)")]⟩,
    ⟨".btn-secondary", [("background", "var(--centaur-surface)"), ("color", "var(--centaur-text)"),
      ("border", "2px solid var(--centaur-border)")]⟩,
    ⟨".btn-secondary:hover", [("border-color", "var(--centaur-accent)"),
      ("color", "var(--centaur-accent)")]⟩]

/-- Rules for forms. -/
def form : List Rule :=
  [⟨".centaur-form-container", [("min-height", "100vh"), ("display", "flex"),
      ("align-items", "center"), ("justify-content", "center"), ("padding", "20px")]⟩,
    ⟨".centaur-form", [("width", "100%"), ("max-width", "450px"),
      ("background", "var(--centaur-surface)"), ("padding", "40px"), ("border-radius", "16px"),
      ("border", "1px solid var(--centaur-border)")]⟩,
    ⟨".form-group", [("margin-bottom", "24px")]⟩,
    ⟨".form-group label", [("display", "block"), ("margin-bottom", "8px"), ("font-weight", "600"),
      ("font-size", "14px")]⟩,
    ⟨".form-group input, .form-group textarea, .form-group select", [("width", "100%"),
      ("padding", "14px 16px"), ("background", "var(--centaur-bg)"),
      ("border", "2px solid var(--centaur-border)"), ("border-radius", "10px"),
      ("color", "var(--centaur-text)"), ("font-size", "16px"), ("font-family", "inherit"),
      ("transition", "all 0.3s")]⟩,
    ⟨".form-group input[type=\"checkbox\"]", [("width", "auto"), ("margin-right", "8px")]⟩,
    ⟨".form-group textarea", [("min-height", "120px"), ("resize", "vertical")]⟩,
    ⟨".form-group input:focus, .form-group textarea:focus, .form-group select:focus", [
      ("outline", "none"), ("border-color", "var(--centaur-accent)")]⟩,
    ⟨".form-group .error", [("border-color", "#FF4444")]⟩,
    ⟨".error-message", [("display", "block"), ("color", "#FF4444"), ("font-size", "13px"),
      ("margin-top", "6px"), ("min-height", "20px")]⟩,
    ⟨".submit-button", [("width", "100%"), ("padding", "16px"),
      ("background", "var(--centaur-accent)"), ("color", "#0a0a0b"), ("border", "none"),
      ("border-radius", "10px"), ("font-size", "16px"), ("font-weight", "700"),
      ("cursor", "pointer")]⟩,
    ⟨".toast", [("position", "fixed"), ("bottom", "30px"), ("left", "50%"),
      ("transform", "translateX(-50%) translateY(100px)"), ("background", "#00C853"),
      ("color", "white"), ("padding", "16px 32px"), ("border-radius", "10px"),
      ("font-weight", "600"), ("opacity", "0"), ("transition", "all 0.4s")]⟩,
    ⟨".toast.show", [("transform", "translateX(-50%) translateY(0)"), ("opacity", "1")]⟩]

/-- Rules for heroes. -/
def hero : List Rule :=
  [⟨".centaur-hero", [("min-height", "100vh"), ("display", "flex"), ("align-items", "center"),
      ("justify-content", "center"), ("padding", "80px 40px"), ("position", "relative")]⟩,
    ⟨".centaur-hero.with-background", [
      ("background", "linear-gradient(rgba(0,0,0,0.55), rgba(0,0,0,0.55)), " ++
        "url('https://picsum.photos/1920/1080') center / cover")]⟩,
    ⟨".hero-content", [("max-width", "900px")]⟩,
    ⟨".hero-content.centered", [("text-align", "center")]⟩,
    ⟨".hero-badge", [("display", "inline-block"), ("color", "var(--centaur-accent)"),
      ("padding", "8px 20px"), ("border-radius", "100px"), ("font-size", "14px"),
      ("font-weight", "600"), ("margin-bottom", "24px"),
      ("border", "1px solid var(--centaur-accent)")]⟩,
    ⟨".hero-headline", [("font-size", "clamp(2.5rem, 8vw, 5rem)"), ("font-weight", "800"),
      ("line-height", "1.1"), ("margin-bottom", "24px"), ("letter-spacing", "-2px")]⟩,
    ⟨".hero-subheadline", [("font-size", "clamp(1.1rem, 2.5vw, 1.4rem)"),
      ("color", "var(--centaur-muted)"), ("margin-bottom", "40px"), ("max-width", "600px")]⟩,
    ⟨".hero-content.centered .hero-subheadline", [("margin-left", "auto"),
      ("margin-right", "auto")]⟩,
    ⟨".hero-buttons", [("display", "flex"), ("gap", "16px"), ("flex-wrap", "wrap")]⟩,
    ⟨".hero-content.centered .hero-buttons", [("justify-content", "center")]⟩]

/-- Rules for cards. -/
def card : List Rule :=
  [⟨"body", [("display", "flex"), ("align-items", "center"), ("justify-content", "center"),
      ("padding", "40px")]⟩,
    ⟨".centaur-card", [("width", "100%"), ("max-width", "350px"),
      ("background", "var(--centaur-surface)"), ("border-radius", "20px"), ("overflow", "hidden"),
      ("border", "1px solid var(--centaur-border)"), ("transition", "all 0.4s")]⟩,
    ⟨".centaur-card:hover", [("transform", "translateY(-8px)"),
      ("border-color", "var(--centaur-accent)")]⟩,
    ⟨".card-image img", [("width", "100%"), ("aspect-ratio", "16 / 10"), ("object-fit", "cover"),
      ("display", "block")]⟩,
    ⟨".card-content", [("padding", "24px")]⟩,
    ⟨".card-badge", [("display", "inline-block"), ("color", "var(--centaur-accent)"),
      ("border", "1px solid var(--centaur-accent)"), ("padding", "4px 12px"),
      ("border-radius", "100px"), ("font-size", "12px"), ("font-weight", "600"),
      ("margin-bottom", "12px")]⟩,
    ⟨".card-title", [("font-size", "1.3rem"), ("font-weight", "700"), ("margin-bottom", "8px")]⟩,
    ⟨".card-description", [("color", "var(--centaur-muted)"), ("font-size", "14px"),
      ("margin-bottom", "16px")]⟩,
    ⟨".card-price", [("font-size", "1.5rem"), ("font-weight", "800"),
      ("color", "var(--centaur-accent)"), ("margin-bottom", "16px")]⟩,
    ⟨".card-button", [("display", "block"), ("padding", "14px"),
      ("background", "var(--centaur-accent)"), ("color", "#0a0a0b"), ("text-align", "center"),
      ("text-decoration", "none"), ("border-radius", "10px"), ("font-weight", "700")]⟩]

/-- Rules for navigation bars. -/
def navigation : List Rule :=
  [⟨".centaur-nav", [("width", "100%"), ("padding", "16px 40px"),
      ("background", "var(--centaur-surface)"),
      ("border-bottom", "1px solid var(--centaur-border)")]⟩,
    ⟨".centaur-nav.sticky", [("position", "fixed"), ("top", "0"), ("left", "0"), ("right", "0"),
      ("z-index", "1000")]⟩,
    ⟨".nav-container", [("max-width", "1200px"), ("margin", "0 auto"), ("display", "flex"),
      ("align-items", "center"), ("justify-content", "space-between")]⟩,
    ⟨".nav-logo", [("font-size", "1.4rem"), ("font-weight", "800"),
      ("color", "var(--centaur-text)"), ("text-decoration", "none")]⟩,
    ⟨".nav-links", [("display", "flex"), ("gap", "32px"), ("list-style", "none")]⟩,
    ⟨".nav-links a", [("color", "var(--centaur-muted)"), ("text-decoration", "none"),
      ("font-weight", "500"), ("transition", "color 0.3s")]⟩,
    ⟨".nav-links a:hover", [("color", "var(--centaur-accent)")]⟩,
    ⟨".nav-cta", [("background", "var(--centaur-accent)"), ("color", "#0a0a0b"),
      ("padding", "12px 24px"), ("border-radius", "10px"), ("text-decoration", "none"),
      ("font-weight", "700")]⟩,
    ⟨".nav-toggle", [("display", "none"), ("flex-direction", "column"), ("gap", "5px"),
      ("background", "none"), ("border", "none"), ("cursor", "pointer"), ("padding", "5px")]⟩,
    ⟨".nav-toggle span", [("width", "24px"), ("height", "2px"),
      ("background", "var(--centaur-text)")]⟩]

/-- Rules for modals. -/
def modal : List Rule :=
  [⟨".modal-trigger", [("padding", "14px 28px"), ("border-radius", "12px"),
      ("background", "var(--centaur-accent)"), ("color", "#0a0a0b"), ("border", "none"),
      ("font-weight", "700"), ("cursor", "pointer"), ("margin", "40px")]⟩,
    ⟨".centaur-modal-overlay", [("position", "fixed"), ("inset", "0"),
      ("background", "rgba(0,0,0,0.6)"), ("display", "flex"), ("align-items", "center"),
      ("justify-content", "center"), ("z-index", "2000")]⟩,
    ⟨".centaur-modal-overlay[hidden]", [("display", "none")]⟩,
    ⟨".centaur-modal", [("position", "relative"), ("background", "var(--centaur-surface)"),
      ("border", "1px solid var(--centaur-border)"), ("border-radius", "16px"), ("padding", "32px"),
      ("width", "90%")]⟩,
    ⟨".modal-small", [("max-width", "360px")]⟩,
    ⟨".modal-medium", [("max-width", "520px")]⟩,
    ⟨".modal-large", [("max-width", "800px")]⟩,
    ⟨".modal-close", [("position", "absolute"), ("top", "12px"), ("right", "16px"),
      ("background", "none"), ("border", "none"), ("color", "var(--centaur-muted)"),
      ("font-size", "24px"), ("cursor", "pointer")]⟩,
    ⟨".modal-title", [("font-size", "1.4rem"), ("margin-bottom", "12px")]⟩,
    ⟨".modal-body", [("color", "var(--centaur-muted)"), ("margin-bottom", "24px")]⟩,
    ⟨".modal-actions", [("display", "flex"), ("justify-content", "flex-end"), ("gap", "12px")]⟩]

/-- Rules for tables. -/
def table : List Rule :=
  [⟨".centaur-table-container", [("padding", "40px"), ("overflow-x", "auto")]⟩,
    ⟨".table-search", [("width", "100%"), ("max-width", "320px"), ("padding", "10px 14px"),
      ("margin-bottom", "16px"), ("background", "var(--centaur-surface)"),
      ("border", "1px solid var(--centaur-border)"), ("border-radius", "8px"),
      ("color", "var(--centaur-text)")]⟩,
    ⟨".centaur-table", [("width", "100%"), ("border-collapse", "collapse")]⟩,
    ⟨".centaur-table th, .centaur-table td", [("padding", "12px 16px"), ("text-align", "left"),
      ("border-bottom", "1px solid var(--centaur-border)")]⟩,
    ⟨".centaur-table th", [("font-weight", "600"), ("color", "var(--centaur-muted)")]⟩,
    ⟨".centaur-table[data-sortable] th", [("cursor", "pointer")]⟩,
    ⟨".centaur-table.striped tbody tr:nth-child(even)", [("background", "var(--centaur-surface)")]⟩,
    ⟨".centaur-table.hoverable tbody tr:hover", [
      ("background", "color-mix(in srgb, var(--centaur-accent) 12%, transparent)")]⟩,
    ⟨".table-pagination", [("display", "flex"), ("gap", "8px"), ("justify-content", "flex-end"),
      ("margin-top", "16px")]⟩]

/-- Rules for footers. -/
def footer : List Rule :=
  [⟨".centaur-footer", [("padding", "60px 40px 30px"), ("background", "var(--centaur-surface)"),
      ("border-top", "1px solid var(--centaur-border)")]⟩,
    ⟨".footer-sections", [("display", "grid"),
      ("grid-template-columns", "repeat(auto-fit, minmax(160px, 1fr))"), ("gap", "32px"),
      ("margin-bottom", "32px")]⟩,
    ⟨".footer-section h4", [("margin-bottom", "12px")]⟩,
    ⟨".footer-section ul", [("list-style", "none")]⟩,
    ⟨".footer-section a, .footer-social a", [("color", "var(--centaur-muted)"),
      ("text-decoration", "none")]⟩,
    ⟨".footer-section a:hover, .footer-social a:hover", [("color", "var(--centaur-accent)")]⟩,
    ⟨".footer-newsletter", [("display", "flex"), ("gap", "8px"), ("margin-bottom", "24px")]⟩,
    ⟨".footer-newsletter input", [("padding", "10px 14px"), ("border-radius", "8px"),
      ("border", "1px solid var(--centaur-border)"), ("background", "var(--centaur-bg)"),
      ("color", "var(--centaur-text)")]⟩,
    ⟨".footer-newsletter button", [("padding", "10px 18px"), ("border-radius", "8px"),
      ("border", "none"), ("background", "var(--centaur-accent)"), ("font-weight", "700"),
      ("cursor", "pointer")]⟩,
    ⟨".footer-social", [("display", "flex"), ("gap", "16px"), ("margin-bottom", "16px")]⟩,
    ⟨".footer-copyright", [("color", "var(--centaur-muted)"), ("font-size", "14px")]⟩]

/-- Rules for galleries. -/
def gallery : List Rule :=
  [⟨".centaur-gallery", [("padding", "40px"), ("display", "grid"),
      ("grid-template-columns", "repeat(var(--gallery-columns, 3), 1fr)"), ("gap", "16px")]⟩,
    ⟨".centaur-gallery.layout-masonry", [("display", "block"),
      ("column-count", "var(--gallery-columns, 3)"), ("column-gap", "16px")]⟩,
    ⟨".centaur-gallery.layout-masonry .gallery-item", [("break-inside", "avoid"),
      ("margin-bottom", "16px")]⟩,
    ⟨".centaur-gallery.layout-carousel", [("display", "flex"), ("overflow-x", "auto"),
      ("scroll-snap-type", "x mandatory")]⟩,
    ⟨".centaur-gallery.layout-carousel .gallery-item", [("flex", "0 0 80%"),
      ("scroll-snap-align", "center")]⟩,
    ⟨".gallery-item img", [("width", "100%"), ("display", "block"), ("border-radius", "12px")]⟩,
    ⟨".gallery-item figcaption", [("color", "var(--centaur-muted)"), ("font-size", "14px"),
      ("margin-top", "6px")]⟩,
    ⟨".has-lightbox .gallery-item img", [("cursor", "zoom-in")]⟩,
    ⟨".gallery-lightbox", [("position", "fixed"), ("inset", "0"), ("background", "rgba(0,0,0,0.9)"),
      ("display", "flex"), ("align-items", "center"), ("justify-content", "center"),
      ("z-index", "2000")]⟩,
    ⟨".gallery-lightbox[hidden]", [("display", "none")]⟩,
    ⟨".gallery-lightbox img", [("max-width", "90vw"), ("max-height", "85vh")]⟩,
    ⟨".lightbox-close", [("position", "absolute"), ("top", "20px"), ("right", "30px"),
      ("background", "none"), ("border", "none"), ("color", "#fff"), ("font-size", "36px"),
      ("cursor", "pointer")]⟩]

/-- Rules for accordions. -/
def accordion : List Rule :=
  [⟨".centaur-accordion", [("max-width", "760px"), ("margin", "40px auto")]⟩,
    ⟨".accordion-item", [("border", "1px solid var(--centaur-border)"), ("border-radius", "12px"),
      ("margin-bottom", "12px"), ("background", "var(--centaur-surface)"), ("overflow", "hidden")]⟩,
    ⟨".accordion-header", [("width", "100%"), ("text-align", "left"), ("padding", "18px 20px"),
      ("background", "none"), ("border", "none"), ("color", "var(--centaur-text)"),
      ("font-size", "16px"), ("font-weight", "600"), ("cursor", "pointer")]⟩,
    ⟨".accordion-content", [("max-height", "0"), ("overflow", "hidden"),
      ("transition", "max-height 0.3s"), ("padding", "0 20px"), ("color", "var(--centaur-muted)")]⟩,
    ⟨".accordion-item.open .accordion-content", [("max-height", "600px"),
      ("padding-bottom", "18px")]⟩,
    ⟨".accordion-item.open .accordion-header", [("color", "var(--centaur-accent)")]⟩]

/-- Rules for tabs. -/
def tabs : List Rule :=
  [⟨".centaur-tabs", [("max-width", "900px"), ("margin", "40px auto")]⟩,
    ⟨".centaur-tabs.vertical", [("display", "flex"), ("gap", "24px")]⟩,
    ⟨".tab-list", [("display", "flex"), ("gap", "4px"),
      ("border-bottom", "1px solid var(--centaur-border)"), ("margin-bottom", "20px")]⟩,
    ⟨".centaur-tabs.vertical .tab-list", [("flex-direction", "column"), ("border-bottom", "none"),
      ("border-right", "1px solid var(--centaur-border)")]⟩,
    ⟨".tab-button", [("padding", "12px 20px"), ("background", "none"), ("border", "none"),
      ("color", "var(--centaur-muted)"), ("font-weight", "600"), ("cursor", "pointer"),
      ("border-bottom", "2px solid transparent")]⟩,
    ⟨".tab-button.active", [("color", "var(--centaur-accent)"),
      ("border-bottom-color", "var(--centaur-accent)")]⟩,
    ⟨".centaur-tabs.pills .tab-list", [("border", "none")]⟩,
    ⟨".centaur-tabs.pills .tab-button", [("border-radius", "100px")]⟩,
    ⟨".centaur-tabs.pills .tab-button.active", [("background", "var(--centaur-accent)"),
      ("color", "#0a0a0b")]⟩,
    ⟨".tab-panel", [("display", "none")]⟩,
    ⟨".tab-panel.active", [("display", "block")]⟩]

/-- Rules for carousels. -/
def carousel : List Rule :=
  [⟨".centaur-carousel", [("position", "relative"), ("max-width", "1200px"),
      ("margin", "40px auto"), ("overflow", "hidden"), ("border-radius", "16px")]⟩,
    ⟨".carousel-slide", [("display", "none"), ("position", "relative")]⟩,
    ⟨".carousel-slide.active", [("display", "block")]⟩,
    ⟨".carousel-slide img", [("width", "100%"), ("display", "block")]⟩,
    ⟨".slide-caption", [("position", "absolute"), ("left", "0"), ("right", "0"), ("bottom", "0"),
      ("padding", "24px"), ("background", "linear-gradient(transparent, rgba(0,0,0,0.7))"),
      ("color", "#fff")]⟩,
    ⟨".carousel-prev, .carousel-next", [("position", "absolute"), ("top", "50%"),
      ("transform", "translateY(-50%)"), ("background", "rgba(0,0,0,0.4)"), ("color", "#fff"),
      ("border", "none"), ("font-size", "32px"), ("width", "48px"), ("height", "48px"),
      ("border-radius", "50%"), ("cursor", "pointer")]⟩,
    ⟨".carousel-prev", [("left", "16px")]⟩,
    ⟨".carousel-next", [("right", "16px")]⟩,
    ⟨".carousel-dots", [("position", "absolute"), ("bottom", "16px"), ("left", "50%"),
      ("transform", "translateX(-50%)"), ("display", "flex"), ("gap", "8px")]⟩,
    ⟨".carousel-dot", [("width", "10px"), ("height", "10px"), ("border-radius", "50%"),
      ("border", "none"), ("background", "rgba(255,255,255,0.5)"), ("cursor", "pointer")]⟩,
    ⟨".carousel-dot.active", [("background", "var(--centaur-accent)")]⟩]

/-- Rules for price lists. -/
def pricing : List Rule :=
  [⟨".centaur-pricing", [("display", "grid"),
      ("grid-template-columns", "repeat(auto-fit, minmax(260px, 1fr))"), ("gap", "24px"),
      ("max-width", "1100px"), ("margin", "40px auto"), ("padding", "0 20px")]⟩,
    ⟨".pricing-plan", [("background", "var(--centaur-surface)"),
      ("border", "1px solid var(--centaur-border)"), ("border-radius", "16px"), ("padding", "32px"),
      ("display", "flex"), ("flex-direction", "column")]⟩,
    ⟨".pricing-plan.highlighted", [("border", "2px solid var(--centaur-accent)"),
      ("transform", "scale(1.03)")]⟩,
    ⟨".plan-name", [("font-size", "1.2rem"), ("margin-bottom", "8px")]⟩,
    ⟨".plan-price", [("color", "var(--centaur-muted)"), ("margin-bottom", "20px")]⟩,
    ⟨".plan-price .amount", [("font-size", "2.5rem"), ("font-weight", "800"),
      ("color", "var(--centaur-text)")]⟩,
    ⟨".plan-features", [("list-style", "none"), ("margin-bottom", "24px"), ("flex", "1")]⟩,
    ⟨".plan-features li", [("padding", "6px 0"),
      ("border-bottom", "1px solid var(--centaur-border)")]⟩,
    ⟨".pricing-plan .btn", [("text-align", "center")]⟩]

/-- Rules for testimonials. -/
def testimonial : List Rule :=
  [⟨".centaur-testimonials", [("max-width", "1100px"), ("margin", "40px auto"),
      ("padding", "0 20px")]⟩,
    ⟨".centaur-testimonials.layout-grid", [("display", "grid"),
      ("grid-template-columns", "repeat(auto-fit, minmax(280px, 1fr))"), ("gap", "24px")]⟩,
    ⟨".centaur-testimonials.layout-carousel", [("display", "flex"), ("gap", "24px"),
      ("overflow-x", "auto"), ("scroll-snap-type", "x mandatory")]⟩,
    ⟨".centaur-testimonials.layout-carousel .testimonial", [("flex", "0 0 85%"),
      ("scroll-snap-align", "center")]⟩,
    ⟨".testimonial", [("background", "var(--centaur-surface)"),
      ("border", "1px solid var(--centaur-border)"), ("border-radius", "16px"),
      ("padding", "28px")]⟩,
    ⟨".testimonial-stars", [("color", "var(--centaur-accent)"), ("margin-bottom", "12px"),
      ("letter-spacing", "2px")]⟩,
    ⟨".testimonial-quote", [("font-size", "1.05rem"), ("margin-bottom", "20px")]⟩,
    ⟨".testimonial-author", [("display", "flex"), ("gap", "12px"), ("align-items", "center")]⟩,
    ⟨".testimonial-avatar", [("width", "44px"), ("height", "44px"), ("border-radius", "50%")]⟩,
    ⟨".testimonial-author cite", [("display", "block"), ("font-style", "normal"),
      ("font-weight", "700")]⟩,
    ⟨".testimonial-author span", [("color", "var(--centaur-muted)"), ("font-size", "14px")]⟩]

/-- Rules for narrow screens. -/
def narrow : List Rule :=
  [⟨".centaur-hero", [("padding", "60px 20px")]⟩,
    ⟨".hero-buttons", [("flex-direction", "column")]⟩,
    ⟨".hero-buttons .btn", [("width", "100%"), ("text-align", "center")]⟩,
    ⟨".nav-toggle", [("display", "flex")]⟩,
    ⟨".nav-links", [("position", "fixed"), ("top", "60px"), ("left", "0"), ("right", "0"),
      ("background", "var(--centaur-surface)"), ("flex-direction", "column"), ("padding", "20px"),
      ("gap", "16px"), ("transform", "translateY(-100%)"), ("opacity", "0"),
      ("transition", "all 0.3s")]⟩,
    ⟨".nav-links.active", [("transform", "translateY(0)"), ("opacity", "1")]⟩,
    ⟨".nav-cta", [("display", "none")]⟩,
    ⟨".centaur-gallery", [("grid-template-columns", "repeat(2, 1fr)"), ("column-count", "2")]⟩,
    ⟨".centaur-tabs.vertical", [("flex-direction", "column")]⟩,
    ⟨".pricing-plan.highlighted", [("transform", "none")]⟩]

end PageSketch.Stock.Rules
