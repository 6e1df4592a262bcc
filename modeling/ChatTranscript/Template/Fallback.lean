import ChatTranscript.Text.Basic

/-!
# The fallback template

A card whose template cannot be fetched is shown by this one.
-/

namespace ChatTranscript

namespace Template

def fallback : Text :=
  List.flatten (List.map String.toList [
    "\n",
    "<div class=\"ark-card default-card\">\n",
    "  <div class=\"card-content\">\n",
    "    <h3>Card failed to load</h3>\n",
    "    <p>This card could not be displayed.</p>\n",
    "  </div>\n",
    "</div>\n",
    "<style>\n",
    "  .ark-card \x7b\n",
    "    border: 1px solid #e0e0e0;\n",
    "    border-radius: 12px;\n",
    "    overflow: hidden;\n",
    "    background-color: #FFFFFF;\n",
    "    box-shadow: 0 2px 10px rgba(0, 0, 0, 0.08);\n",
    "    margin: 12px 0;\n",
    "    font-family: -apple-system, BlinkMacSystemFont, \"Segoe UI\", Roboto, \"Helvetica ",
    "Neue\", Arial, sans-serif;\n",
    "  \x7d\n",
    "  .card-content \x7b\n",
    "    padding: 16px;\n",
    "  \x7d\n",
    "  .card-footer \x7b\n",
    "    padding: 8px 16px;\n",
    "    border-top: 1px solid #f0f0f0;\n",
    "    background-color: #fafafa;\n",
    "    font-size: 13px;\n",
    "    color: #999;\n",
    "  \x7d\n",
    "</style>\n"])

end Template

end ChatTranscript
