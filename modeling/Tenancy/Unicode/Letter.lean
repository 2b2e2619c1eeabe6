import Tenancy.Unicode.Runs

/-!
# Letters, digits and blanks

Which characters of all scripts are alphabetic or numeric, and which ones are blanks.
-/

namespace Tenancy.Unicode

/-- `A` for alphabetic and numeric characters, `O` for all others. -/
def alphanumericText : String :=
  String.join
    ["O1cAaO7AqO6AqO1bAO7A2OAO3A2OA3OAnOAvOAcqO4AcOeA5O7AOAO2eAOtAiOA2O2A4OAO6AOA3OAOAkOA2bOA3vO8",
     "A4mOA12O2AO6A15O13AeOAOA2OA2OAO8ArO4A4OtAbO5A1kOAhO4A2uOA8O4A8O4AgO2AOgA1cOdA2tOeA17O9A2O4A",
     "O5AoO2AjOjApO7AbO5AoOA7O7AO8A16OaAcO3A7O6A24OAgOA3O4AfO2AaOAjOA8O2A2O2AmOA7OAO3A4O3A8O2A2O2",
     "A2OAO8AO4A2OA5O2AcO2A6O2AO4A3OA6O4A2O2AmOA7OA2OA2OA2O4A5O4A2O2A2O4AO7A4OAO7AgObA3OA9OA3OAmO",
     "A7OA2OA5O3A9OA3OA2O3AOfA4O2AaO9A4O4A3OA8O2A2O2AmOA7OA2OA5O3A8O2A2O2A2O9A2O4A2OA5O2AaOA7OaA2O",
     "A6O3A3OA4O3A2OAOA2O3A2O3A3O3AcO4A5O3A3OA3O3AO6AOeAdOdAdOA3OAnOAgO3A8OA3OA3O8A2OA3OA2O2A4O2Aa",
     "O8A7OA4OA8OA3OAnOAaOA5O3A8OA3OA3O8A2O5A3OA4O2AaOA3OcAdOA3OA15O2A8OA3OA3OAO5AgO2AjOA6OA3OAiO3",
     "AoOA9OAO2A7O8A6OAOA8O6AaO2A2OdA1mO5A7O6AO2AaO13A2OAOA5OAoOAOAjOA3O2A5OAO6AO2AaO2A4OwAOvAkOc",
     "A8OA10O4AjO4AgOA10O1vA1jOAO2AfO6A26O2A12OAO5AO2A17OA99OA4O2A7OAOA4O2A15OA4O2AxOA4O2A7OAOA4O2",
     "AfOA1lOA4O2A1vOeAkO3AgOgA2eO2A6O3Ah8O2AhOAqO5A23O3AbO7AkObAlOcAkOcAdOA3OA2OcA1gO2AjOeAO4AO3",
     "AaO6AaOmAaO6A2hO7A17O5A1yOaAvOAcO4A9OdA14O2A5ObA18O4AqO6AbO11AsO4A1rO2AkObAaO6AaOdAOnA2ObA3",
     "O1dA1gOAfOA8O3AaO12A16O2A1mOAbOeA1jO9AaO3A1dO2AbO5A17O2A3O15A4OA6OA2O3AO5A5cOjAyObA7qO2A6O2",
     "A12O2A6O2A8OAOAOAOAvO2A1hOA7OAO3A3OA7O3A4O2A6O4AdO5A3OA7O37A2O2A6O5AbO6AdO2tAO4AO2AaOAO3A5O6",
     "AOAOAOA4OAbO2A4O5A5O4AOA1mOk6A1oOqA22OhiAuOvgA6dO6A4O3A2O9AO2A12OAO5AO2A1kO7AOgAnO9A7OA7OA7O",
     "A7OA7OA7OA7OA7OAwO1bAOd1A3OpA9O7A5O2A5O4A2eO6A3OA2iOA4O5A17OA2mO3A4OaAwO1cAgOwAaOuA8OAfOwAa",
     "O13AfO8wA534O1sAh3hO1vA1aO2A7hO3AsOkA1bO5A8O3A35O13A9O2A2vO2A2aOkAlOAxO8A6OaA1gOcA1wOAOaAaOo",
     "A6O3AOA1aO5AzOdAtO3A1fOAcOfAbO6AvOA1jO9AeO2AaO6AnO3A1xOAOAOoA3O2AgO2A4ObA6O2A6O2A6O9A7OA7O",
     "A17OAeO6A3fO5AaO6A8mcOcAnO4A1dO6isAa6O2A2yO12A7OcA5O5AcOAdOA5OAOA2OA2OA30OxAa3OiA1sO2A1iO14",
     "AcO38A5OA3rOjAaO7AqO6AqObA2hO3A6O2A6O2A6O2A3OzAcOAqOAjOA2OAfO2AeOyA3fOcA19OcA1lOhA2O6sAtO3",
     "A1dOgArO4A10O9AuO5A17O5AuO2A10O4A8OA5O16A4eO2AaO6A10O4A10O4A14O8A1gOcAbOAfOA7OA2OAbOAfOA7OA2",
     "O3A1gOcA8nO9AmOaA8OoA6OA16OA9O1xA6O2AOA18OA2O3AO2AnO2AvO2A12O8A9O1cAjOA2O5AxO4AqO6AqO12A1kO4",
     "AkO2A1eOA2O5A8OA3OAtOaA9OnAvOAwOwA8OAsO6A5OgA1iOaAmO2ArO5AqOnA7O28A21O1jA1fOdA1fO7A1aO8AaO6",
     "A12O3AO5AnO62AvOA16OA2O3A2OgA6O1eA3O3A14O8AmObA4OrAiO1aAsOkAnO9A1yOcAuOA5OaA1lO9AOdApO7AaO6",
     "A1fO3AaO4A4O8AzO3AO9A1sOA4O9AdOAO4AkObAiOAyO2AO6A4O1qA7OAOA4OAfOAaO7A1lO7AaO6A4OA8O2A2O2AmO",
     "A7OA2OA5O3A8O2A2O2A2O3AO6AO5A7OsAaOAO2AOA12OAaOAO2AOA4OA2O3AOAO18A1uOA3OA4O5AaO5A3OuA1uO2A2O",
     "AO8AaO4mA1iO2A7OpA6OyA1rOAO3AObAaO12A1iO2AO7AaO6AkOsArO2AeO5AcO4A7O55A1lO2vA2bOcA8O2AO2A8OA2",
     "OAuOA2O2A2O2A4OdAaO1yA8O2A1aO2A6OAOA2OrA1fO2AaOhA20O5AOiA21O2vA8O2gAxOfAaO6A9OA19OA7OAOfAtO5",
     "AuO2AmOAeO21A7OA2OA18O3AOA2OA3OAO2A2O8AaO6A6OA2OA11OA2OA4OAO7AaO6A18O4AaO6uAnO9AhOA15O3A3Of",
     "AaO2eAOfAlO17ApmO2uA33OhA5gO218A2pOfAtsOhA6OpA32zO5Ag7O5a1A1bOAaO1c6AftO7AvOAaO6A27OAaO6AuOi",
     "A1cOgA4OcAaOA7OAlO5AjOc0A19O3AaO5iA2fO9ApO2ApO18A23O4A1lO7AhO1sA2OAOcA7O9A5p2O15AwO2pA37O6pp",
     "A4OA7OA2OA83OfAOtA3O2AOeA4O8Ab0O1s4A2zO5AdO3A9O7AaO4AO381AaO152AkOcAkO30ApO3rA2dOA1zOA2O2AO2",
     "A2O2A4OAcOAOA7OA1tOA4O2A8OA7OAsOA4OA5OAO3A7OA9gO2ApOApOAvOApOAvOApOAvOApOAvOApOA8O2A1eO1dsAv",
     "O6A6O5xA7OAhO2A7OA2OA5O5A1qOxAO34A19OaA7O2AaO4AO8xAuOiA18O4AaOd2AsO4AaO5yAuO2AbO5hAvOAmO8A2",
     "O68A7OA4OA2OAfOA5hO2A9O1cA1wO3AO3AO4AaOlzA1nOA3OA4O24A19OAfO5eA4OArOA2OAO2AOAaOA4OAOAO6AO4AO",
     "AOAOA3OA2OAO2AOAOAOAOAOA2OAO2A4OA7OA4OA4OAOAaOAhO5A3OA5OAhOg4AdOzAqO6AqO6AqO21yAaOsmAwyoOw",
     "A3dqO2A4geO2A5rlOfAhaO1wiAf2O15uA3t7O5A6juOjdl2"]

/-- Whether every character is alphabetic or numeric. -/
def alphanumeric : Table := .ofText alphanumericText

/-- Whether a character is alphabetic or numeric. -/
def isAlphanumeric (c : Char) : Bool := alphanumeric.kindOf c = 'A'

/-- Whether a character is a blank: it moves on in the line, or to another one. -/
def isBlank (c : Char) : Bool :=
  let n := c.toNat
  (9 ≤ n && n ≤ 13) || n = 0x20 || n = 0x85 || n = 0xA0 || n = 0x1680 || (0x2000 ≤ n && n ≤ 0x200A)
    || n = 0x2028 || n = 0x2029 || n = 0x202F || n = 0x205F || n = 0x3000

/-- A text without blanks around it. -/
def trim (cs : List Char) : List Char :=
  ((cs.dropWhile isBlank).reverse.dropWhile isBlank).reverse

end Tenancy.Unicode
