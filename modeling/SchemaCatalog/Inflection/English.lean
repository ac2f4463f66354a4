import SchemaCatalog.Inflection.Rule

/-!
# The rules of English number

The rules by which a plural is formed and a singular recovered.  In each list the first rule that is
about a word decides, so exceptions stand before what they are exceptions to.

The lists stand for those of the external library to which number inflection is left, in its order
of precedence.  Results about `NameForms.ofName` rest on their being the same.
-/

namespace SchemaCatalog.Inflection

/-- Endings of words whose singular and plural are alike, such as `fish` and `chinese`. -/
def invariantEndings : List Rule := [
  .keep [spell "sheep"],
  .keep [spell "pox"],
  .keep [[oneOf "o", oneOf "iu", oneOf "s"]],
  .keep [spell "measles"],
  .keep [spell "fish"],
  .keep [spell "deer"],
  .keep [noneOf "aeiou" :: spell "ese"],
  .keep [spell "pok" ++ [oneOf "eé"] ++ spell "mon"]]

/-- Stems of Latin words in `-us`, plural `-i`. -/
def latinMasculines : List Spelling :=
  ["alumn", "syllab", "vir", "radi", "nucle", "fung", "cact", "stimul", "termin", "bacill", "foc",
    "uter", "loc", "strat"].map spell

/-- Stems of Latin words in `-um`, plural `-a`. -/
def latinNeuters : List Spelling :=
  ["agend", "addend", "millenni", "dat", "extrem", "bacteri", "desiderat", "strat", "candelabr",
    "errat", "ov", "symposi", "curricul", "quor"].map spell

/-- Stems of Greek words in `-on`, plural `-a`. -/
def greekNeuters : List Spelling :=
  ["apheli", "hyperbat", "periheli", "asyndet", "noumen", "phenomen", "criteri", "organ",
    "prolegomen", "hedr", "automat"].map spell

/-- Stems of Latin words in `-a`, plural `-ae`. -/
def latinFeminines : List Spelling :=
  ["alumn", "alg", "vertebr"].map spell

/-- Stems with a plural in `-ice`: mouse, titmouse and louse. -/
def miceStems : List Spelling :=
  ["titm", "m", "l"].map spell

/-- The stem of a word such as `menu`. -/
def menuStem : Spelling :=
  spell "e" ++ [oneOf "mn"] ++ spell "u"

/-- The rules by which a plural is formed. -/
def pluralRules : List Rule := invariantEndings ++ [
  { tails := [⟨.text, [], spell "thou"⟩], replacement := "you" },
  -- woman, women
  .change ["man", "men"] "men",
  -- plateaux
  .keep [spell "eaux"],
  .after [spell "child"] ["ren", ""] "ren",
  .after [spell "pe"] ["rson", "ople"] "ople",
  -- mouse, mice
  .wordAfter miceStems ["ice", "ouse"] "ice",
  -- matrix, matrices; index, indices
  .after (["matr", "cod", "mur", "sil", "vert", "ind", "append"].map spell) ["ix", "ex"] "ices",
  -- box, boxes; class, classes
  .after (["x", "ch", "ss", "sh", "zz"].map spell) [""] "es",
  -- money, monies
  .after [[noneOf "ch", oneOf "ieo", oneOf "ln"]] ["ey"] "ies",
  -- category, categories
  .after [[noneOf "aeiouy"], spell "qu"] ["y"] "ies",
  -- knife, knives; leaf, leaves
  { tails := tails .anywhere (["kni", "wi", "li"].map spell) ["fe"]
      ++ tails .anywhere (["ar", "l", "ea", "eo", "oa", "hoo"].map spell) ["f"],
    replacement := "ves" },
  -- analysis, analyses
  .change ["sis"] "ses",
  -- criterion, criteria
  .after greekNeuters ["a", "on"] "a",
  -- datum, data
  .after (latinNeuters ++ [spell "automat"]) ["a", "um"] "a",
  -- hero, heroes
  .after (["her", "at", "gr"].map spell) ["o"] "oes",
  .after (["seraph", "cherub"].map spell) ["im", ""] "im",
  -- alga, algae
  .after latinFeminines ["a", "ae"] "ae",
  -- nucleus, nuclei
  .after latinMasculines ["us", "i"] "i",
  -- bias, pizzas
  .keep [noneOf "l" :: spell "ias", oneOf "aeiou" :: spell "las", oneOf "ejzr" :: spell "as",
    oneOf "iu" :: spell "am"],
  -- menu, menus
  .after [menuStem] ["s", ""] "s",
  -- alias, aliases; status, statuses
  .after [spell "alias", noneOf "aou" :: spell "us", [oneOf "t", oneOf "lm", oneOf "a", oneOf "s"],
    spell "gas", spell "ris"] [""] "es",
  -- axis, axes
  .after (["ax", "test"].map spell) ["is"] "es",
  .keep [noneOf "aeiou" :: spell "ese"],
  .keep [[.notAscii]],
  -- user, users
  .change ["s", ""] "s"]

/-- Stems that keep their `-e` before the plural `-s`, at the end of any word: `cookies`. -/
def ieStems : List Spelling :=
  ["dg", "ss", "ois", "lk", "ok", "wn", "mb", "th", "ch", "ec", "oal", "is", "ck", "ix", "sser",
    "ts", "wb"].map spell

/-- Whole words that keep their `-e` before the plural `-s`: `neckties`. -/
def ieWords : List Spelling :=
  ["l", "neckt", "crosst", "hogt", "aunt", "t", "coll", "faer", "food", "gen", "goon", "group",
    "hipp", "junk", "vegg", "porkp", "p", "charl", "calor", "cut"].map spell

/-- Stems that may have `-es` after them in the plural. -/
def esStems : List Spelling :=
  ["x", "ch", "ss", "sh", "zz", "tto", "go", "cho", "alias"].map spell
    ++ [noneOf "aou" :: spell "us", [oneOf "t", oneOf "lm", oneOf "a", oneOf "s"], spell "gas"]
    ++ ["hero", "ato", "gro"].map spell
    ++ [oneOf "aeiou" :: spell "ris"]

/-- The rules by which a singular is recovered. -/
def singularRules : List Rule := invariantEndings ++ [
  -- women, woman
  .change ["men"] "man",
  .after [spell "eau"] ["x", ""] "",
  .after [spell "child"] ["ren"] "",
  .after [spell "pe"] ["rson", "ople"] "rson",
  -- matrices, matrix
  .after (["matr", "append"].map spell) ["ices"] "ix",
  -- indices, index
  .after (["cod", "mur", "sil", "vert", "ind"].map spell) ["ices"] "ex",
  -- algae, alga
  .after latinFeminines ["ae"] "a",
  -- criteria, criterion
  .after greekNeuters ["a"] "on",
  -- data, datum
  .after latinNeuters ["a"] "um",
  -- nuclei, nucleus
  .after latinMasculines ["us", "i"] "us",
  .after [spell "test"] ["is", "es"] "is",
  -- movies, movie; menus, menu
  .after (["movie", "twelve", "abuse"].map spell ++ [menuStem]) ["s"] "",
  -- analyses, analysis
  .after (["analy", "diagno", "parenthe", "progno", "synop", "the", "empha", "cri", "ne"].map spell)
    ["sis", "ses"] "sis",
  -- boxes, box; statuses, status
  .after esStems ["es", ""] "",
  .after (["seraph", "cherub"].map spell) ["im"] "",
  -- mice, mouse
  .wordAfter miceStems ["ice"] "ouse",
  -- monies, money
  .wordAfter (["mon", "smil"].map spell) ["ies"] "ey",
  -- neckties, necktie
  .wordAfter ieWords ["ies"] "ie",
  -- cookies, cookie
  .after ieStems ["ies"] "ie",
  -- categories, category
  .change ["ies"] "y",
  -- leaves, leaf
  .after (["ar", "wol", "al", "el", "eo", "ea", "oo", "oa"].map spell) ["ves"] "f",
  -- knives, knife; lives, life
  { tails := tails .anywhere (["wi", "kni", "afterli", "halfli", "highli", "lowli", "midli",
        "nonli", "nightli"].map spell ++ [.notWordChar :: spell "li"]) ["ves"]
      ++ tails .text [spell "li"] ["ves"],
    replacement := "fe" },
  -- class
  .keep [spell "ss"],
  -- users, user
  .change ["s"] ""]

end SchemaCatalog.Inflection
