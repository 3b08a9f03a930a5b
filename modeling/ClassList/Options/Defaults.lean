import ClassList.Classifier

/-! The default groups and their patterns. -/

namespace ClassList.Defaults

def groupOrder : List Text :=
  ["Size", "Layout", "Spacing", "Border", "Background", "Text", "Effects", "Others"]

def sizePatterns : List Text :=
  Text.ofStrings ["w-*", "h-*", "min-w-*", "max-w-*", "min-h-*", "max-h-*", "size-*"]

def layoutPatterns : List Text :=
  Text.ofStrings ["container", "box-*", "block", "inline-block", "inline", "flex", "inline-flex",
    "grid", "inline-grid", "hidden", "table", "table-*", "flow-*", "static", "fixed", "absolute",
    "relative", "sticky", "top-*", "right-*", "bottom-*", "left-*", "inset-*", "z-*", "float-*",
    "clear-*", "isolate", "isolation-*", "object-*", "overflow-*", "overscroll-*", "visible",
    "invisible", "flex-*", "grow-*", "shrink-*", "order-*", "grid-*", "col-*", "row-*", "gap-*",
    "justify-*", "content-*", "items-*", "self-*", "place-*"]

def spacingPatterns : List Text :=
  Text.ofStrings ["p-*", "px-*", "py-*", "pt-*", "pr-*", "pb-*", "pl-*", "ps-*", "pe-*", "m-*",
    "mx-*", "my-*", "mt-*", "mr-*", "mb-*", "ml-*", "ms-*", "me-*", "space-*", "-m-*", "-mx-*",
    "-my-*", "-mt-*", "-mr-*", "-mb-*", "-ml-*", "-ms-*", "-me-*"]

def borderPatterns : List Text :=
  Text.ofStrings ["border-*", "border", "divide-*", "outline-*", "outline", "ring-*", "ring",
    "rounded-*", "rounded"]

def backgroundPatterns : List Text :=
  Text.ofStrings ["bg-*", "from-*", "via-*", "to-*", "decoration-*", "selection"]

def textPatterns : List Text :=
  Text.ofStrings ["text-*", "font-*", "leading-*", "tracking-*", "line-clamp-*", "truncate",
    "whitespace-*", "break-*", "hyphens-*", "content-*", "uppercase", "lowercase", "capitalize",
    "normal-case", "italic", "not-italic", "underline", "overline", "line-through", "no-underline",
    "antialiased", "subpixel-antialiased", "ordinal", "slashed-zero", "tabular-nums",
    "diagonal-fractions", "stacked-fractions", "list-*", "placeholder-*", "caret-*"]

def effectsPatterns : List Text :=
  Text.ofStrings ["shadow-*", "shadow", "opacity-*", "mix-*", "blur-*", "brightness-*",
    "contrast-*", "drop-shadow-*", "grayscale-*", "hue-rotate-*", "invert-*", "saturate-*",
    "sepia-*", "backdrop-*", "transition-*", "transition", "duration-*", "ease-*", "delay-*",
    "animate-*", "transform", "transform-*", "scale-*", "rotate-*", "translate-*", "skew-*",
    "origin-*", "accent-*", "appearance-*", "cursor-*", "pointer-events-*", "resize-*", "scroll-*",
    "snap-*", "touch-*", "select-*", "will-change-*"]

/-- The last group takes what matches no pattern and has none itself. -/
def mapping : Mapping :=
  [("Size", sizePatterns),
    ("Layout", layoutPatterns),
    ("Spacing", spacingPatterns),
    ("Border", borderPatterns),
    ("Background", backgroundPatterns),
    ("Text", textPatterns),
    ("Effects", effectsPatterns),
    ("Others", [])]

end ClassList.Defaults
