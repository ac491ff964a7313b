import PageSketch.Page.Stock.Templates

/-! The scripts of the kinds that need one. -/
namespace PageSketch.Stock.Scripts

/-- Checks the fields of a form and shows its message. -/
def form : String := braced r#"(function () ‹
  var form = document.querySelector('.centaur-form');
  if (!form) return;
  var toast = form.parentNode.querySelector('.toast');
  var emailPattern = /^[^\s@]+@[^\s@]+\.[^\s@]+$/;

  function validate(input) ‹
    var error = document.getElementById(input.id + '-error');
    var message = '';
    var value = input.type === 'checkbox' ? input.checked : input.value.trim();
    if (input.required && !value) ‹
      message = 'This field is required';
    › else if (input.type === 'email' && value && !emailPattern.test(value)) ‹
      message = 'Please enter a valid email';
    › else if (input.minLength > 0 && value && value.length < input.minLength) ‹
      message = 'Must be at least ' + input.minLength + ' characters';
    ›
    input.classList.toggle('error', message !== '');
    if (error) error.textContent = message;
    return message === '';
  ›

  var inputs = form.querySelectorAll('input, textarea, select');
  inputs.forEach(function (input) ‹
    input.addEventListener('blur', function () ‹ validate(input); ›);
  ›);

  form.addEventListener('submit', function (event) ‹
    event.preventDefault();
    var valid = true;
    inputs.forEach(function (input) ‹ valid = validate(input) && valid; ›);
    if (!valid) return;
    if (toast) ‹
      toast.textContent = form.dataset.success;
      toast.classList.add('show');
      setTimeout(function () ‹ toast.classList.remove('show'); ›, 3000);
    ›
    form.reset();
  ›);
›)();
"#

/-- Opens and closes the menu of a navigation bar. -/
def navigation : String := braced r#"(function () ‹
  var toggle = document.querySelector('.nav-toggle');
  var links = document.querySelector('.nav-links');
  if (!toggle || !links) return;
  toggle.addEventListener('click', function () ‹
    links.classList.toggle('active');
  ›);
  links.querySelectorAll('a').forEach(function (link) ‹
    link.addEventListener('click', function () ‹ links.classList.remove('active'); ›);
  ›);
›)();
"#

/-- Opens and closes a modal. -/
def modal : String := braced r#"(function () ‹
  var trigger = document.querySelector('.modal-trigger');
  if (!trigger) return;
  var overlay = document.getElementById(trigger.dataset.modal);
  if (!overlay) return;

  function open() ‹ overlay.hidden = false; ›
  function close() ‹ overlay.hidden = true; ›

  trigger.addEventListener('click', open);
  overlay.querySelectorAll('.modal-close, .modal-cancel, .modal-confirm').forEach(function (button) ‹
    button.addEventListener('click', close);
  ›);
  if (overlay.dataset.closeOverlay === 'true') ‹
    overlay.addEventListener('click', function (event) ‹
      if (event.target === overlay) close();
    ›);
  ›
  if (overlay.dataset.closeEscape === 'true') ‹
    document.addEventListener('keydown', function (event) ‹
      if (event.key === 'Escape') close();
    ›);
  ›
›)();
"#

/-- Searches and sorts a table. -/
def table : String := braced r#"(function () ‹
  var table = document.querySelector('.centaur-table');
  if (!table) return;
  var body = table.tBodies[0];
  var search = document.querySelector('.table-search');

  if (search) ‹
    search.addEventListener('input', function () ‹
      var term = search.value.toLowerCase();
      Array.prototype.forEach.call(body.rows, function (row) ‹
        row.style.display = row.textContent.toLowerCase().indexOf(term) === -1 ? 'none' : '';
      ›);
    ›);
  ›

  if (table.hasAttribute('data-sortable')) ‹
    table.querySelectorAll('th').forEach(function (th, column) ‹
      var ascending = true;
      th.addEventListener('click', function () ‹
        var rows = Array.prototype.slice.call(body.rows);
        rows.sort(function (a, b) ‹
          var x = a.cells[column] ? a.cells[column].textContent : '';
          var y = b.cells[column] ? b.cells[column].textContent : '';
          return ascending ? x.localeCompare(y, undefined, ‹ numeric: true ›) : y.localeCompare(x, undefined, ‹ numeric: true ›);
        ›);
        ascending = !ascending;
        rows.forEach(function (row) ‹ body.appendChild(row); ›);
      ›);
    ›);
  ›
›)();
"#

/-- Shows a picture of a gallery large. -/
def gallery : String := braced r#"(function () ‹
  var lightbox = document.querySelector('.gallery-lightbox');
  if (!lightbox) return;
  var image = lightbox.querySelector('img');
  document.querySelectorAll('.gallery-item img').forEach(function (img) ‹
    img.addEventListener('click', function () ‹
      image.src = img.src;
      image.alt = img.alt;
      lightbox.hidden = false;
    ›);
  ›);
  lightbox.addEventListener('click', function (event) ‹
    if (event.target !== image) lightbox.hidden = true;
  ›);
  document.addEventListener('keydown', function (event) ‹
    if (event.key === 'Escape') lightbox.hidden = true;
  ›);
›)();
"#

/-- Opens and closes the entries of an accordion. -/
def accordion : String := braced r#"(function () ‹
  var accordion = document.querySelector('.centaur-accordion');
  if (!accordion) return;
  var multiple = accordion.hasAttribute('data-multiple');
  var items = accordion.querySelectorAll('.accordion-item');
  items.forEach(function (item) ‹
    var header = item.querySelector('.accordion-header');
    header.setAttribute('aria-expanded', item.classList.contains('open'));
    header.addEventListener('click', function () ‹
      var opening = !item.classList.contains('open');
      if (!multiple) ‹
        items.forEach(function (other) ‹
          other.classList.remove('open');
          other.querySelector('.accordion-header').setAttribute('aria-expanded', 'false');
        ›);
      ›
      item.classList.toggle('open', opening);
      header.setAttribute('aria-expanded', opening);
    ›);
  ›);
›)();
"#

/-- Switches between tabs. -/
def tabs : String := braced r#"(function () ‹
  var tabs = document.querySelector('.centaur-tabs');
  if (!tabs) return;
  var buttons = tabs.querySelectorAll('.tab-button');
  var panels = tabs.querySelectorAll('.tab-panel');
  buttons.forEach(function (button) ‹
    button.addEventListener('click', function () ‹
      buttons.forEach(function (b) ‹ b.classList.toggle('active', b === button); ›);
      panels.forEach(function (panel) ‹
        panel.classList.toggle('active', panel.dataset.tab === button.dataset.tab);
      ›);
    ›);
  ›);
›)();
"#

/-- Moves a carousel on. -/
def carousel : String := braced r#"(function () ‹
  var carousel = document.querySelector('.centaur-carousel');
  if (!carousel) return;
  var slides = carousel.querySelectorAll('.carousel-slide');
  var dots = carousel.querySelectorAll('.carousel-dot');
  var current = 0;
  if (slides.length === 0) return;

  function show(index) ‹
    current = (index + slides.length) % slides.length;
    slides.forEach(function (slide, i) ‹ slide.classList.toggle('active', i === current); ›);
    dots.forEach(function (dot, i) ‹ dot.classList.toggle('active', i === current); ›);
  ›

  var prev = carousel.querySelector('.carousel-prev');
  var next = carousel.querySelector('.carousel-next');
  if (prev) prev.addEventListener('click', function () ‹ show(current - 1); ›);
  if (next) next.addEventListener('click', function () ‹ show(current + 1); ›);
  dots.forEach(function (dot) ‹
    dot.addEventListener('click', function () ‹ show(Number(dot.dataset.slide)); ›);
  ›);

  if (carousel.dataset.autoplay === 'true') ‹
    var interval = Number(carousel.dataset.interval) || 5000;
    var timer = setInterval(function () ‹ show(current + 1); ›, interval);
    carousel.addEventListener('mouseenter', function () ‹ clearInterval(timer); ›);
    carousel.addEventListener('mouseleave', function () ‹
      timer = setInterval(function () ‹ show(current + 1); ›, interval);
    ›);
  ›
›)();
"#

/-- The script of a kind that needs none. -/
def empty : String := braced "(function () ‹›)();\n"

end PageSketch.Stock.Scripts
