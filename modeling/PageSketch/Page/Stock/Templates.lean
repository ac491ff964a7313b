/-! The templates of the pages: one for the page itself, one for the body of each kind. -/
namespace PageSketch.Stock

/-- A brace for `‹` or `›`, as stock texts are written with those. -/
def brace (char : Char) : Char := if char = '‹' then '{' else if char = '›' then '}' else char

/-- A stock text as it is used. -/
def braced (text : String) : String := String.ofList (text.toList.map brace)

namespace Templates

/-- The page around the body of a component. -/
def page : String := braced r#"‹‹‹header›››<!DOCTYPE html>
<html lang="‹‹language››">
<head>
    <meta charset="UTF-8">
    <meta name="viewport" content="width=device-width, initial-scale=1.0">
    <title>‹‹name››</title>
    <link href="https://fonts.googleapis.com/css2?family=Inter:wght@400;500;600;700&display=swap" rel="stylesheet">
‹‹#if tailwind››
    <script src="https://cdn.tailwindcss.com"></script>
‹‹/if››
    <link rel="stylesheet" href="‹‹name››.css">
</head>
<body class="centaur-‹‹theme››">
‹‹‹body›››
    <script src="‹‹name››.js"></script>
</body>
</html>
"#

def form : String := braced r#"    <div class="centaur-form-container">
        <form class="centaur-form" id="‹‹slug››-form" data-success="‹‹options.successMessage››" novalidate>
‹‹#each fields››
            <div class="form-group">
‹‹#if is_checkbox››
                <label class="checkbox-label"><input type="checkbox" id="field-‹‹name››" name="‹‹name››"‹‹#if required›› required‹‹/if››> ‹‹label››</label>
‹‹else››
                <label for="field-‹‹name››">‹‹label››‹‹#if required›› *‹‹/if››</label>
‹‹#if is_textarea››
                <textarea id="field-‹‹name››" name="‹‹name››" placeholder="‹‹placeholder››"‹‹#if minLength›› minlength="‹‹minLength››"‹‹/if››‹‹#if required›› required‹‹/if››></textarea>
‹‹/if››
‹‹#if is_select››
                <select id="field-‹‹name››" name="‹‹name››"‹‹#if required›› required‹‹/if››>
                    <option value="">‹‹placeholder››</option>
‹‹#each options››
                    <option value="‹‹kebab_case this››">‹‹this››</option>
‹‹/each››
                </select>
‹‹/if››
‹‹#if is_input››
                <input type="‹‹type››" id="field-‹‹name››" name="‹‹name››" placeholder="‹‹placeholder››"‹‹#if minLength›› minlength="‹‹minLength››"‹‹/if››‹‹#if required›› required‹‹/if››>
‹‹/if››
‹‹/if››
                <span class="error-message" id="field-‹‹name››-error"></span>
            </div>
‹‹/each››
            <button type="submit" class="submit-button">‹‹options.buttonText››</button>
        </form>
        <div class="toast" id="‹‹slug››-toast" role="status"></div>
    </div>
"#

def hero : String := braced r##"    <section class="centaur-hero‹‹#if options.backgroundImage›› with-background‹‹/if››">
        <div class="hero-content‹‹#if options.centered›› centered‹‹/if››">
‹‹#if options.badge››
            <span class="hero-badge">‹‹options.badge››</span>
‹‹/if››
            <h1 class="hero-headline">‹‹options.headline››</h1>
            <p class="hero-subheadline">‹‹options.subheadline››</p>
            <div class="hero-buttons">
                <a href="#" class="btn btn-primary">‹‹options.ctaText››</a>
‹‹#if options.secondaryText››
                <a href="#" class="btn btn-secondary">‹‹options.secondaryText››</a>
‹‹/if››
            </div>
        </div>
    </section>
"##

def card : String := braced r##"    <article class="centaur-card">
‹‹#if options.hasImage››
        <div class="card-image"><img src="https://picsum.photos/700/440" alt="‹‹options.title››"></div>
‹‹/if››
        <div class="card-content">
‹‹#if options.badge››
            <span class="card-badge">‹‹options.badge››</span>
‹‹/if››
            <h3 class="card-title">‹‹options.title››</h3>
            <p class="card-description">‹‹options.content››</p>
‹‹#if options.price››
            <p class="card-price">‹‹options.price››</p>
‹‹/if››
‹‹#if options.hasButton››
            <a href="#" class="card-button">‹‹options.buttonText››</a>
‹‹/if››
        </div>
    </article>
"##

/-- The body of a navigation bar. -/
def navigation : String := braced r##"    <nav class="centaur-nav‹‹#if options.sticky›› sticky‹‹/if››">
        <div class="nav-container">
            <a href="#" class="nav-logo">‹‹options.logo››</a>
            <button class="nav-toggle" aria-label="Menu"><span></span><span></span><span></span></button>
            <ul class="nav-links">
‹‹#each items››
                <li><a href="‹‹href››">‹‹text››</a></li>
‹‹/each››
            </ul>
‹‹#if options.ctaText››
            <a href="#" class="nav-cta">‹‹options.ctaText››</a>
‹‹/if››
        </div>
    </nav>
"##

/-- The body of a modal and the button that opens it. -/
def modal : String := braced r#"    <button class="modal-trigger" data-modal="‹‹slug››-modal">‹‹options.triggerText››</button>
    <div class="centaur-modal-overlay" id="‹‹slug››-modal" data-close-overlay="‹‹options.closeOnOverlay››" data-close-escape="‹‹options.closeOnEscape››" hidden>
        <div class="centaur-modal modal-‹‹options.size››" role="dialog" aria-modal="true" aria-labelledby="‹‹slug››-title">
‹‹#if options.showClose››
            <button class="modal-close" aria-label="Close">&times;</button>
‹‹/if››
            <h2 class="modal-title" id="‹‹slug››-title">‹‹options.title››</h2>
            <div class="modal-body">‹‹options.content››</div>
            <div class="modal-actions">
‹‹#if options.showCancel››
                <button class="btn btn-secondary modal-cancel">‹‹options.cancelText››</button>
‹‹/if››
‹‹#if options.showConfirm››
                <button class="btn btn-primary modal-confirm">‹‹options.confirmText››</button>
‹‹/if››
            </div>
        </div>
    </div>
"#

def table : String := braced r#"    <div class="centaur-table-container">
‹‹#if options.searchable››
        <input type="search" class="table-search" placeholder="Search...">
‹‹/if››
        <table class="centaur-table‹‹#if options.striped›› striped‹‹/if››‹‹#if options.hoverable›› hoverable‹‹/if››"‹‹#if options.sortable›› data-sortable‹‹/if››>
            <thead>
                <tr>
‹‹#each options.columns››
                    <th>‹‹this››</th>
‹‹/each››
                </tr>
            </thead>
            <tbody>
‹‹#each items››
                <tr>
‹‹#each cells››
                    <td>‹‹this››</td>
‹‹/each››
                </tr>
‹‹/each››
            </tbody>
        </table>
‹‹#if options.paginated››
        <div class="table-pagination"><button class="page-prev">Previous</button><button class="page-next">Next</button></div>
‹‹/if››
    </div>
"#

def footer : String := braced r#"    <footer class="centaur-footer">
        <div class="footer-sections">
‹‹#each sections››
            <div class="footer-section">
                <h4>‹‹title››</h4>
                <ul>
‹‹#each links››
                    <li><a href="‹‹href››">‹‹text››</a></li>
‹‹/each››
                </ul>
            </div>
‹‹/each››
        </div>
‹‹#if options.newsletter››
        <form class="footer-newsletter"><input type="email" placeholder="Your email"><button type="submit">Subscribe</button></form>
‹‹/if››
‹‹#if socials››
        <div class="footer-social">
‹‹#each socials››
            <a href="‹‹url››" aria-label="‹‹platform››">‹‹upper_first platform››</a>
‹‹/each››
        </div>
‹‹/if››
        <p class="footer-copyright">‹‹options.copyright››</p>
    </footer>
"#

def gallery : String := braced r#"    <div class="centaur-gallery layout-‹‹options.layout››‹‹#if options.lightbox›› has-lightbox‹‹/if››" style="--gallery-columns: ‹‹options.columns››">
‹‹#each items››
        <figure class="gallery-item">
            <img src="‹‹src››" alt="‹‹alt››" loading="lazy">
            <figcaption>‹‹caption››</figcaption>
        </figure>
‹‹/each››
    </div>
‹‹#if options.lightbox››
    <div class="gallery-lightbox" hidden><img alt=""><button class="lightbox-close" aria-label="Close">&times;</button></div>
‹‹/if››
"#

def accordion : String := braced r#"    <div class="centaur-accordion"‹‹#if options.allowMultiple›› data-multiple‹‹/if››>
‹‹#each items››
        <div class="accordion-item‹‹#if (eq @index ../options.defaultOpen)›› open‹‹/if››">
            <button class="accordion-header" aria-expanded="false">‹‹title››</button>
            <div class="accordion-content"><p>‹‹content››</p></div>
        </div>
‹‹/each››
    </div>
"#

def tabs : String := braced r#"    <div class="centaur-tabs‹‹#if options.vertical›› vertical‹‹/if››‹‹#if options.pills›› pills‹‹/if››">
        <div class="tab-list" role="tablist">
‹‹#each items››
            <button class="tab-button‹‹#if @first›› active‹‹/if››" role="tab" data-tab="‹‹@index››">‹‹title››</button>
‹‹/each››
        </div>
‹‹#each items››
        <div class="tab-panel‹‹#if @first›› active‹‹/if››" role="tabpanel" data-tab="‹‹@index››">‹‹content››</div>
‹‹/each››
    </div>
"#

def carousel : String := braced r#"    <div class="centaur-carousel" data-autoplay="‹‹options.autoplay››" data-interval="‹‹options.interval››">
        <div class="carousel-track">
‹‹#each items››
            <div class="carousel-slide‹‹#if @first›› active‹‹/if››">
                <img src="‹‹image››" alt="‹‹title››">
                <div class="slide-caption"><h3>‹‹title››</h3>‹‹#if description››<p>‹‹description››</p>‹‹/if››</div>
            </div>
‹‹/each››
        </div>
‹‹#if options.showArrows››
        <button class="carousel-prev" aria-label="Previous">&#8249;</button>
        <button class="carousel-next" aria-label="Next">&#8250;</button>
‹‹/if››
‹‹#if options.showDots››
        <div class="carousel-dots">
‹‹#each items››
            <button class="carousel-dot‹‹#if @first›› active‹‹/if››" data-slide="‹‹@index››"></button>
‹‹/each››
        </div>
‹‹/if››
    </div>
"#

def pricing : String := braced r##"    <section class="centaur-pricing">
‹‹#each items››
        <div class="pricing-plan‹‹#if highlighted›› highlighted‹‹/if››">
            <h3 class="plan-name">‹‹name››</h3>
            <p class="plan-price"><span class="amount">$‹‹price››</span>/‹‹period››</p>
            <ul class="plan-features">
‹‹#each features››
                <li>‹‹this››</li>
‹‹/each››
            </ul>
            <a href="#" class="btn ‹‹#if highlighted››btn-primary‹‹else››btn-secondary‹‹/if››">‹‹buttonText››</a>
        </div>
‹‹/each››
    </section>
"##

def testimonial : String := braced r#"    <section class="centaur-testimonials layout-‹‹options.layout››">
‹‹#each items››
        <blockquote class="testimonial">
‹‹#if ../options.showStars››
            <div class="testimonial-stars" aria-label="‹‹rating›› stars">‹‹stars rating››</div>
‹‹/if››
            <p class="testimonial-quote">‹‹quote››</p>
            <footer class="testimonial-author">
                <img src="‹‹avatar››" alt="‹‹author››" class="testimonial-avatar">
                <div><cite>‹‹author››</cite>‹‹#if role››<span>‹‹role››‹‹#if company››, ‹‹company››‹‹/if››</span>‹‹/if››</div>
            </footer>
        </blockquote>
‹‹/each››
    </section>
"#

end Templates

end PageSketch.Stock
