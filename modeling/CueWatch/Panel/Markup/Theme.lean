import CueWatch.Keyed
import CueWatch.Text.Blank

/-!
Contract: the names that the theme of the panel gives to colours and styles.

Owns:
- `Theme.entries` and `Theme.find?`, what each name stands for, as words.

Does not own: what the words tell (`Panel.Markup.Form`).
-/

namespace CueWatch.Panel.Markup.Theme

set_option maxRecDepth 4000 in
/-- The names and what they stand for. -/
def entries : List (Text × Text) :=
  List.map (fun pair => (String.toList pair.1, String.toList pair.2))
  [
    ("primary-darken-3", "#004295"), ("primary-darken-2", "#0053AA"),
    ("primary-darken-1", "#0065BE"), ("primary", "#0178D4"), ("primary-lighten-1", "#368AE9"),
    ("primary-lighten-2", "#539EFF"), ("primary-lighten-3", "#6DB2FF"),
    ("secondary-darken-3", "#001541"), ("secondary-darken-2", "#002452"),
    ("secondary-darken-1", "#003465"), ("secondary", "#004578"),
    ("secondary-lighten-1", "#23568B"), ("secondary-lighten-2", "#3B689F"),
    ("secondary-lighten-3", "#507BB3"), ("primary-background-darken-3", "#0F212F"),
    ("primary-background-darken-2", "#0F212F"), ("primary-background-darken-1", "#21313E"),
    ("primary-background", "#33424E"), ("primary-background-lighten-1", "#45525D"),
    ("primary-background-lighten-2", "#57636D"), ("primary-background-lighten-3", "#69747D"),
    ("secondary-background-darken-3", "#0F1921"), ("secondary-background-darken-2", "#0F1921"),
    ("secondary-background-darken-1", "#212A31"), ("secondary-background", "#333B42"),
    ("secondary-background-lighten-1", "#454C52"), ("secondary-background-lighten-2", "#575E63"),
    ("secondary-background-lighten-3", "#696F74"), ("background-darken-3", "#000000"),
    ("background-darken-2", "#000000"), ("background-darken-1", "#000000"),
    ("background", "#121212"), ("background-lighten-1", "#212121"),
    ("background-lighten-2", "#313131"), ("background-lighten-3", "#414141"),
    ("foreground-darken-3", "#A2A2A2"), ("foreground-darken-2", "#B6B6B6"),
    ("foreground-darken-1", "#CACACA"), ("foreground", "#E0E0E0"),
    ("foreground-lighten-1", "#F5F5F5"), ("foreground-lighten-2", "#FFFFFF"),
    ("foreground-lighten-3", "#FFFFFF"), ("panel-darken-3", "#000003"),
    ("panel-darken-2", "#000F18"), ("panel-darken-1", "#141F27"), ("panel", "#242F38"),
    ("panel-lighten-1", "#343F49"), ("panel-lighten-2", "#45505A"),
    ("panel-lighten-3", "#57626D"), ("boost-darken-3", "#BFBFBF0A"),
    ("boost-darken-2", "#D4D4D40A"), ("boost-darken-1", "#E9E9E90A"), ("boost", "#FFFFFF0A"),
    ("boost-lighten-1", "#FFFFFF0A"), ("boost-lighten-2", "#FFFFFF0A"),
    ("boost-lighten-3", "#FFFFFF0A"), ("surface-darken-3", "#000000"),
    ("surface-darken-2", "#000000"), ("surface-darken-1", "#0D0D0D"), ("surface", "#1E1E1E"),
    ("surface-lighten-1", "#2D2D2D"), ("surface-lighten-2", "#3E3E3E"),
    ("surface-lighten-3", "#4F4F4F"), ("warning-darken-3", "#B86B00"),
    ("warning-darken-2", "#CF7E00"), ("warning-darken-1", "#E7920D"), ("warning", "#FEA62B"),
    ("warning-lighten-1", "#FFBA41"), ("warning-lighten-2", "#FFCF56"),
    ("warning-lighten-3", "#FFE46B"), ("error-darken-3", "#780028"),
    ("error-darken-2", "#8D0638"), ("error-darken-1", "#A32549"), ("error", "#B93C5B"),
    ("error-lighten-1", "#D0506D"), ("error-lighten-2", "#E76580"),
    ("error-lighten-3", "#FE7993"), ("success-darken-3", "#008139"),
    ("success-darken-2", "#18954B"), ("success-darken-1", "#36AA5E"), ("success", "#4EBF71"),
    ("success-lighten-1", "#64D484"), ("success-lighten-2", "#7AE998"),
    ("success-lighten-3", "#8FFFAC"), ("accent-darken-3", "#B86B00"),
    ("accent-darken-2", "#CF7E00"), ("accent-darken-1", "#E7920D"), ("accent", "#FEA62B"),
    ("accent-lighten-1", "#FFBA41"), ("accent-lighten-2", "#FFCF56"),
    ("accent-lighten-3", "#FFE46B"), ("text", "auto 87%"), ("text-muted", "auto 60%"),
    ("text-disabled", "auto 38%"), ("primary-muted", "#0C304C"), ("secondary-muted", "#0C2130"),
    ("accent-muted", "#593E19"), ("warning-muted", "#593E19"), ("error-muted", "#441E27"),
    ("success-muted", "#24452E"), ("foreground-muted", "#E0E0E099"),
    ("foreground-disabled", "#E0E0E060"), ("block-cursor-foreground", "auto 87%"),
    ("block-cursor-background", "#0178D4"), ("block-cursor-text-style", "bold"),
    ("block-cursor-blurred-foreground", "#E0E0E0"),
    ("block-cursor-blurred-background", "#0178D44C"), ("block-cursor-blurred-text-style", "none"),
    ("block-hover-background", "#FFFFFF19"), ("border", "#0178D4"), ("border-blurred", "#191919"),
    ("surface-active", "#2A2A2A"), ("scrollbar", "#003054"), ("scrollbar-hover", "#003C6A"),
    ("scrollbar-active", "#0178D4"), ("scrollbar-background", "#000000"),
    ("scrollbar-corner-color", "#000000"), ("scrollbar-background-hover", "#000000"),
    ("scrollbar-background-active", "#000000"), ("link-background", "initial"),
    ("link-background-hover", "#0178D4"), ("link-color", "auto 87%"), ("link-style", "underline"),
    ("link-color-hover", "auto 87%"), ("link-style-hover", "bold not underline"),
    ("footer-foreground", "#E0E0E0"), ("footer-background", "#242F38"),
    ("footer-key-foreground", "#FFA62B"), ("footer-key-background", "transparent"),
    ("footer-description-foreground", "#E0E0E0"),
    ("footer-description-background", "transparent"), ("footer-item-background", "transparent"),
    ("input-cursor-background", "#E0E0E0"), ("input-cursor-foreground", "#121212"),
    ("input-cursor-text-style", "none"), ("input-selection-background", "#368AE966"),
    ("markdown-h1-color", "#0178D4"), ("markdown-h1-background", "transparent"),
    ("markdown-h1-text-style", "bold"), ("markdown-h2-color", "#0178D4"),
    ("markdown-h2-background", "transparent"), ("markdown-h2-text-style", "underline"),
    ("markdown-h3-color", "#0178D4"), ("markdown-h3-background", "transparent"),
    ("markdown-h3-text-style", "bold"), ("markdown-h4-color", "#E0E0E0"),
    ("markdown-h4-background", "transparent"), ("markdown-h4-text-style", "bold underline"),
    ("markdown-h5-color", "#E0E0E0"), ("markdown-h5-background", "transparent"),
    ("markdown-h5-text-style", "bold"), ("markdown-h6-color", "#E0E0E099"),
    ("markdown-h6-background", "transparent"), ("markdown-h6-text-style", "bold"),
    ("button-foreground", "#E0E0E0"), ("button-color-foreground", "auto 87%"),
    ("button-focus-text-style", "b reverse"), ("text-primary", "#57A5E2"),
    ("text-secondary", "#5684A5"), ("text-warning", "#FFC473"), ("text-error", "#D17E92"),
    ("text-success", "#8AD4A1"), ("text-accent", "#FFC473")
  ]

def find? (name : Text) : Option (List Text) := (Keyed.find? name entries).map Text.words

end CueWatch.Panel.Markup.Theme
