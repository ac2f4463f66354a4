/-!
# Irregular words

Words whose plural no rule gives, and words that have no plural.  They are listed in
lowercase, in which they are looked up, all but the pronoun `I`: it is the singular of `we`, but is
itself taken for a letter, with the plural `is`.

The lists stand for those of the external library to which number inflection is left.  Results
about `NameForms.ofName` rest on their being the same.
-/

namespace SchemaCatalog.Inflection

/-- Singular and plural forms.  Several words share a plural; the first of them is its singular. -/
def irregular : List (String × String) := [
  ("I", "we"), ("me", "us"), ("she", "they"), ("he", "they"), ("them", "them"),
  ("myself", "ourselves"), ("yourself", "yourselves"), ("themself", "themselves"),
  ("itself", "themselves"), ("herself", "themselves"), ("himself", "themselves"),
  ("is", "are"), ("was", "were"), ("has", "have"), ("this", "these"), ("that", "those"),
  ("my", "our"), ("her", "their"), ("its", "their"), ("his", "their"),
  ("echo", "echoes"), ("dingo", "dingoes"), ("volcano", "volcanoes"), ("tornado", "tornadoes"),
  ("torpedo", "torpedoes"), ("genus", "genera"), ("viscus", "viscera"), ("stigma", "stigmata"),
  ("stoma", "stomata"), ("dogma", "dogmata"), ("lemma", "lemmata"), ("schema", "schemata"),
  ("anathema", "anathemata"), ("ox", "oxen"), ("axe", "axes"), ("die", "dice"), ("yes", "yeses"),
  ("foot", "feet"), ("eave", "eaves"), ("goose", "geese"), ("tooth", "teeth"), ("quiz", "quizzes"),
  ("human", "humans"), ("proof", "proofs"), ("carve", "carves"), ("valve", "valves"),
  ("looey", "looies"), ("thief", "thieves"), ("groove", "grooves"), ("pickaxe", "pickaxes"),
  ("passerby", "passersby"), ("canvas", "canvases")]

/-- The plural of a listed singular. -/
def pluralOf? (word : String) : Option String :=
  irregular.lookup word

/-- The singular of a listed plural. -/
def singularOf? (word : String) : Option String :=
  (irregular.map fun (singular, plural) => (plural, singular)).lookup word

/-- Words without a plural. -/
def uncountable : List String := [
  "adulthood", "advice", "agenda", "aid", "aircraft", "alcohol", "ammo", "analytics", "anime",
  "athletics", "audio", "bison", "blood", "bream", "buffalo", "butter", "carp", "cash", "chassis",
  "chess", "clothing", "cod", "commerce", "cooperation", "corps", "debris", "diabetes",
  "digestion", "elk", "energy", "equipment", "excretion", "expertise", "firmware", "flounder",
  "fun", "gallows", "garbage", "graffiti", "hardware", "headquarters", "health", "herpes",
  "highjinks", "homework", "housework", "information", "jeans", "justice", "kudos", "labour",
  "literature", "machinery", "mackerel", "mail", "media", "mews", "moose", "music", "mud", "manga",
  "news", "only", "personnel", "pike", "plankton", "pliers", "police", "pollution", "premises",
  "rain", "research", "rice", "salmon", "scissors", "series", "sewage", "shambles", "shrimp",
  "software", "staff", "swine", "tennis", "traffic", "transportation", "trout", "tuna", "wealth",
  "welfare", "whiting", "wildebeest", "wildlife", "you"]

end SchemaCatalog.Inflection
