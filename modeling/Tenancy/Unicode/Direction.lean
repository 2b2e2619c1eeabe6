import Tenancy.Unicode.Runs

/-!
# Writing directions

Letters run to the right or to the left; digits, separators and marks go along with what is around
them, each kind in its own way.
-/

namespace Tenancy.Unicode

/-- How a character takes part in the direction of a line. -/
inductive Direction where
  | left
  | right
  | arabicLetter
  | arabicNumber
  | europeanNumber
  | europeanSeparator
  | europeanTerminator
  | commonSeparator
  | mark
  | boundary
  | neutral
  | blank
  deriving DecidableEq, Repr

/-- A letter for the direction of every character. -/
def directionText : String :=
  String.join
    ["B9W5BeW5O2T3O5PCPC2EaCO6LqO6LqO4B6WBqCOT4O4LO2BO2T2E2OLO3ELO5LnOLvOLchO2L7OeL2OeL5O9LOhN34L4",
     "O2L8OL5O2LOL32OL3wN7L74O5T2N19RNRN2RN2RN9R1cD6O2AT2ACAO2NbA1cNlDaTD2A3NA2tN7DON6A2N2ON4A2Ea",
     "AnNAuNtA2hNbAfR17N9R2O4R3NRoN4RN9RN3RN7R15N5R2A1cD7N9A16NoDNwL1jNLNL4N8L4NL3N7LaN2LtNL1mNL4",
     "N6L6NLkN4LcT2L7TL2N5L1lN2L3NoLnN2L3NLbN2L1lNL4N8L4N3LiN4LbT8LN8L1mNL2NLN6L6NaLbN4LsNL1pNLcN3",
     "LzO6TO6NL3NL1jNLN3L5NiLaN4LiO7L2NL1mNLfN9LdN4LqN2L1lN2L4N5L7NLkN4LrNL20N5L3N6L2hNL2NbTL7N8",
     "L2qNL2N9LbN8L20N2LrNLNLNO4L1fNeLN5LN2L5N1dL8NL2uN4LN6LN2L2N2LpN2L4N3LgN4LdNL2N2L6NLfNLjjN3",
     "L1cOgL2oOLhrWLqO5L36N3LtN2LuNeLiNeL1gN2LN7L8NL2NbL7TLN3LgOrN3BNL39N2LyNL3aN3L4N2L9NL6N7O6L48",
     "OyLnN2L2N3L1kNLN9LNL2N8L6NdL1cN2cL1cNLN5LNL5NLbO2LrN9LbON2LwN4L2N2LN3L1kNLN2L3NLN3L1mN8L2N5",
     "L45N3LNdLN7L4NL6NL3N2L5iN1sLcdOLO3LbO3LdO3LdO5LbO3WbB3LROoW7CT5OfCOqWB6W4B6EL3E6P2O3LEaP2O4",
     "LgTxOfN1cO2LO4LO2LaOLO3L5O6LOLOLOL4TLbO2L4O5L5O4L2OgL15O3tPTO82L1xOqLO6qEkL26OciLO9fL74Olc",
     "L6dO6L4N3L7O7L3jNL2oNwOe8WO4L3OpL9N4L2OL5O2L5O4L2gN2O2L3OL2iOL5gO1cL19O3L1cOgLsO3L1eOfLcO4",
     "L4nO4L2rO2LvOL534O1sLh3kO1sL8tO3L2nN4ONaO2LuN2L28N2LeOyL2uOL3dNL3NL4NLpN2LO4N4L8T8L1gOcL1wNa",
     "LiNiLdNL12N8LpNbL1aN3L1cNL2N4L2N2L13NL1vN6L2N2L2NbL3NL8NL1bNL1fNLN3L2N2L5N2LNL16N2L8NbL2xO6",
     "L39NL2NL4N3Lfn1RNRaPR12A37OgAa3OiA1sO2A1iO14AdO3NgOgNgOwCOC2OCO9TO2P2O5T2O5A3zB2O2T3O5PCPC2",
     "EaCO6LqO6LqObL3eT2O3T3OoL75OL1qO25L3O1sL19N3nL2oNEvL3aNaLw0R7zOR69NfR14N8R4lN6R26O7RcgA10Nc",
     "DgR15N5ORvO5uDwR17N2RlAeO16N6R1cAmNbAvRiN4R3eLNL1iNfLbOkLaNL2N2LaN3L1dN4L2N2L7NbL1fN3L10N5L",
     "N9L1pNLcN2L1gN9LaN4L2NL2nN3L2NLN2L6NL2N1rL2nNL3NdLgN2L1lN2L3NL11NqL1nN7LcNLNLNLOdNvL1kN8L2N3",
     "LNLnNL2cN6LNL4N2LN2L6mN6L4N2LN2LrN10L1fN8L2NLN2LvOwL17NLNL2N6LNL2tN3L2N4LN9L73N9LN2L74N2LNL4",
     "NL40N8L4NLwN6L2N2L14N6L2N4L8N9LN6L2N3L1aNdLN2L5iNLN3LNL3eOfL1sNeL2cNnLN7LN2LN23L1dNlLN9L1sN3",
     "L2NLNL9nN2LbN2L1gN8L2NLNLnN2eL11O8T4OuL401NL6NpL8u6NcL3N3L1xcN5L1nN7LfqO3LdbNL1rN4L27OLNc",
     "Lf59N2LB31cO6oEaOeeN28LevN3L9B8N8L2N7LuN4L1nO2hN3O3fL1sO2oLorOL1lOL1lOL1lOL1lOLaE1eLe8N1jL4",
     "N1eL8NLeNLmNv9L74N1cL2nN35L1cN7LafNiL18N4LfTcxLsN4L72N2LfO5dLzNL2NL7N2L5N9L76R5sN1cR1wN7Rme",
     "AhrOeoEbO5LvOL1mO6L1pO1lL3eO1w0EaOsmLgutdB73N1edcL2t4w"]

/-- The direction of every character. -/
def directions : Table := .ofText directionText

/-- The direction that a letter of the table means: `L` characters run from the left, `R` and `A`
ones from the right. -/
def Direction.ofKind (c : Char) : Direction :=
  match c with
  | 'L' => .left
  | 'R' => .right
  | 'A' => .arabicLetter
  | 'D' => .arabicNumber
  | 'E' => .europeanNumber
  | 'P' => .europeanSeparator
  | 'T' => .europeanTerminator
  | 'C' => .commonSeparator
  | 'N' => .mark
  | 'B' => .boundary
  | 'W' => .blank
  | _ => .neutral

/-- The direction of a character. -/
def direction (c : Char) : Direction := .ofKind (directions.kindOf c)

end Tenancy.Unicode
