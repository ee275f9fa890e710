/-!
Letters that look like a plain Latin letter with a stroke, a hook or a turn, and that have no
canonical decomposition. Folding takes each to the plain letter. A capital that is not in the list
stays as it is, even where its lower case is in it.
-/

namespace BookmarkSearch.Unicode

set_option maxRecDepth 10000 in
def plainLetters : List (Nat × Char) := [
    (0xD8, 'o'), (0xDF, 's'), (0xF8, 'o'), (0x111, 'd'), (0x127, 'h'), (0x131, 'i'), (0x140, 'l'),
    (0x142, 'l'), (0x167, 't'), (0x17F, 's'), (0x180, 'b'), (0x181, 'b'), (0x183, 'b'),
    (0x186, 'o'), (0x188, 'c'), (0x189, 'd'), (0x18A, 'd'), (0x18C, 'd'), (0x18E, 'e'),
    (0x190, 'e'), (0x192, 'f'), (0x193, 'g'), (0x197, 'i'), (0x199, 'k'), (0x19A, 'l'),
    (0x19C, 'm'), (0x19D, 'n'), (0x19E, 'n'), (0x19F, 'o'), (0x1A5, 'p'), (0x1AB, 't'),
    (0x1AD, 't'), (0x1AE, 't'), (0x1B2, 'v'), (0x1B4, 'y'), (0x1B6, 'z'), (0x1DD, 'e'),
    (0x1E5, 'g'), (0x220, 'n'), (0x221, 'd'), (0x225, 'z'), (0x234, 'l'), (0x235, 'n'),
    (0x236, 't'), (0x237, 'j'), (0x23A, 'a'), (0x23B, 'c'), (0x23C, 'c'), (0x23D, 'l'),
    (0x23E, 't'), (0x23F, 's'), (0x240, 'z'), (0x243, 'b'), (0x244, 'u'), (0x245, 'v'),
    (0x246, 'e'), (0x247, 'e'), (0x248, 'j'), (0x249, 'j'), (0x24A, 'q'), (0x24B, 'q'),
    (0x24C, 'r'), (0x24D, 'r'), (0x24E, 'y'), (0x24F, 'y'), (0x250, 'a'), (0x251, 'a'),
    (0x253, 'b'), (0x254, 'o'), (0x255, 'c'), (0x256, 'd'), (0x257, 'd'), (0x258, 'e'),
    (0x25B, 'e'), (0x25C, 'e'), (0x25D, 'e'), (0x25E, 'e'), (0x25F, 'j'), (0x260, 'g'),
    (0x261, 'g'), (0x262, 'g'), (0x265, 'h'), (0x266, 'h'), (0x268, 'i'), (0x26A, 'i'),
    (0x26B, 'l'), (0x26C, 'l'), (0x26D, 'l'), (0x26F, 'm'), (0x270, 'm'), (0x271, 'm'),
    (0x272, 'n'), (0x273, 'n'), (0x274, 'n'), (0x275, 'o'), (0x279, 'r'), (0x27A, 'r'),
    (0x27B, 'r'), (0x27C, 'r'), (0x27D, 'r'), (0x27E, 'r'), (0x27F, 'r'), (0x280, 'r'),
    (0x281, 'r'), (0x282, 's'), (0x287, 't'), (0x288, 't'), (0x289, 'u'), (0x28B, 'v'),
    (0x28C, 'v'), (0x28D, 'w'), (0x28E, 'y'), (0x28F, 'y'), (0x290, 'z'), (0x291, 'z'),
    (0x297, 'c'), (0x299, 'b'), (0x29A, 'e'), (0x29B, 'g'), (0x29C, 'h'), (0x29D, 'j'),
    (0x29E, 'k'), (0x29F, 'l'), (0x2A0, 'q'), (0x2AE, 'h'), (0x1D00, 'a'), (0x1D03, 'a'),
    (0x1D04, 'a'), (0x1D05, 'a'), (0x1D07, 'a'), (0x1D08, 'a'), (0x1D09, 'c'), (0x1D0A, 'e'),
    (0x1D0B, 'e'), (0x1D0C, 'e'), (0x1D0D, 'e'), (0x1D0E, 'i'), (0x1D0F, 'i'), (0x1D10, 'i'),
    (0x1D11, 'i'), (0x1D12, 'n'), (0x1D13, 'o'), (0x1D16, 'o'), (0x1D17, 'o'), (0x1D18, 'o'),
    (0x1D19, 'o'), (0x1D1A, 'o'), (0x1D1B, 'u'), (0x1D1C, 'u'), (0x1D1D, 'u'), (0x1D1E, 'u'),
    (0x1D1F, 'y'), (0x1D20, 's'), (0x1D21, 'a'), (0x1D22, 'a'), (0x1D62, 'a'), (0x1D63, 'a'),
    (0x1D64, 'a'), (0x1D65, 'a'), (0x1E9A, 'o'), (0x2071, 'a'), (0x2095, 'a'), (0x2096, 'a'),
    (0x2097, 'a'), (0x2098, 'a'), (0x209A, 'a'), (0x209B, 'c'), (0x209C, 'e'), (0x2184, 'e')]

def plainLetter (c : Char) : Char := (plainLetters.lookup c.toNat).getD c

end BookmarkSearch.Unicode
