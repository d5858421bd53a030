import Pseudonym.Text.Normal

/-!
# Names of characters, Unicode version 14

The names of the characters that texts of programs spell out: Latin, Greek and Cyrillic letters,
accents, punctuation, symbols, arrows, signs of mathematics, box drawing and pictures. Ideographs and
Hangul syllables have their names by rule. Characters of other scripts are left out; their names are
taken for unknown.
-/

namespace Pseudonym.Text

/-- Names in the order of the characters, with underscores for spaces. A name with a code point and a
colon in front starts a new run; any other belongs to the next character. -/
def characterNames : String :=
  "20:SPACE EXCLAMATION_MARK QUOTATION_MARK NUMBER_SIGN DOLLAR_SIGN PERCENT_SIGN AMPERSAND APOSTROPHE
   LEFT_PARENTHESIS RIGHT_PARENTHESIS ASTERISK PLUS_SIGN COMMA HYPHEN-MINUS FULL_STOP SOLIDUS DIGIT_ZERO
   DIGIT_ONE DIGIT_TWO DIGIT_THREE DIGIT_FOUR DIGIT_FIVE DIGIT_SIX DIGIT_SEVEN DIGIT_EIGHT DIGIT_NINE COLON
   SEMICOLON LESS-THAN_SIGN EQUALS_SIGN GREATER-THAN_SIGN QUESTION_MARK COMMERCIAL_AT LATIN_CAPITAL_LETTER_A
   LATIN_CAPITAL_LETTER_B LATIN_CAPITAL_LETTER_C LATIN_CAPITAL_LETTER_D LATIN_CAPITAL_LETTER_E
   LATIN_CAPITAL_LETTER_F LATIN_CAPITAL_LETTER_G LATIN_CAPITAL_LETTER_H LATIN_CAPITAL_LETTER_I
   LATIN_CAPITAL_LETTER_J LATIN_CAPITAL_LETTER_K LATIN_CAPITAL_LETTER_L LATIN_CAPITAL_LETTER_M
   LATIN_CAPITAL_LETTER_N LATIN_CAPITAL_LETTER_O LATIN_CAPITAL_LETTER_P LATIN_CAPITAL_LETTER_Q
   LATIN_CAPITAL_LETTER_R LATIN_CAPITAL_LETTER_S LATIN_CAPITAL_LETTER_T LATIN_CAPITAL_LETTER_U
   LATIN_CAPITAL_LETTER_V LATIN_CAPITAL_LETTER_W LATIN_CAPITAL_LETTER_X LATIN_CAPITAL_LETTER_Y
   LATIN_CAPITAL_LETTER_Z LEFT_SQUARE_BRACKET REVERSE_SOLIDUS RIGHT_SQUARE_BRACKET CIRCUMFLEX_ACCENT LOW_LINE
   GRAVE_ACCENT LATIN_SMALL_LETTER_A LATIN_SMALL_LETTER_B LATIN_SMALL_LETTER_C LATIN_SMALL_LETTER_D
   LATIN_SMALL_LETTER_E LATIN_SMALL_LETTER_F LATIN_SMALL_LETTER_G LATIN_SMALL_LETTER_H LATIN_SMALL_LETTER_I
   LATIN_SMALL_LETTER_J LATIN_SMALL_LETTER_K LATIN_SMALL_LETTER_L LATIN_SMALL_LETTER_M LATIN_SMALL_LETTER_N
   LATIN_SMALL_LETTER_O LATIN_SMALL_LETTER_P LATIN_SMALL_LETTER_Q LATIN_SMALL_LETTER_R LATIN_SMALL_LETTER_S
   LATIN_SMALL_LETTER_T LATIN_SMALL_LETTER_U LATIN_SMALL_LETTER_V LATIN_SMALL_LETTER_W LATIN_SMALL_LETTER_X
   LATIN_SMALL_LETTER_Y LATIN_SMALL_LETTER_Z LEFT_CURLY_BRACKET VERTICAL_LINE RIGHT_CURLY_BRACKET TILDE
   a0:NO-BREAK_SPACE INVERTED_EXCLAMATION_MARK CENT_SIGN POUND_SIGN CURRENCY_SIGN YEN_SIGN BROKEN_BAR
   SECTION_SIGN DIAERESIS COPYRIGHT_SIGN FEMININE_ORDINAL_INDICATOR LEFT-POINTING_DOUBLE_ANGLE_QUOTATION_MARK
   NOT_SIGN SOFT_HYPHEN REGISTERED_SIGN MACRON DEGREE_SIGN PLUS-MINUS_SIGN SUPERSCRIPT_TWO SUPERSCRIPT_THREE
   ACUTE_ACCENT MICRO_SIGN PILCROW_SIGN MIDDLE_DOT CEDILLA SUPERSCRIPT_ONE MASCULINE_ORDINAL_INDICATOR
   RIGHT-POINTING_DOUBLE_ANGLE_QUOTATION_MARK VULGAR_FRACTION_ONE_QUARTER VULGAR_FRACTION_ONE_HALF
   VULGAR_FRACTION_THREE_QUARTERS INVERTED_QUESTION_MARK LATIN_CAPITAL_LETTER_A_WITH_GRAVE
   LATIN_CAPITAL_LETTER_A_WITH_ACUTE LATIN_CAPITAL_LETTER_A_WITH_CIRCUMFLEX LATIN_CAPITAL_LETTER_A_WITH_TILDE
   LATIN_CAPITAL_LETTER_A_WITH_DIAERESIS LATIN_CAPITAL_LETTER_A_WITH_RING_ABOVE LATIN_CAPITAL_LETTER_AE
   LATIN_CAPITAL_LETTER_C_WITH_CEDILLA LATIN_CAPITAL_LETTER_E_WITH_GRAVE LATIN_CAPITAL_LETTER_E_WITH_ACUTE
   LATIN_CAPITAL_LETTER_E_WITH_CIRCUMFLEX LATIN_CAPITAL_LETTER_E_WITH_DIAERESIS
   LATIN_CAPITAL_LETTER_I_WITH_GRAVE LATIN_CAPITAL_LETTER_I_WITH_ACUTE LATIN_CAPITAL_LETTER_I_WITH_CIRCUMFLEX
   LATIN_CAPITAL_LETTER_I_WITH_DIAERESIS LATIN_CAPITAL_LETTER_ETH LATIN_CAPITAL_LETTER_N_WITH_TILDE
   LATIN_CAPITAL_LETTER_O_WITH_GRAVE LATIN_CAPITAL_LETTER_O_WITH_ACUTE LATIN_CAPITAL_LETTER_O_WITH_CIRCUMFLEX
   LATIN_CAPITAL_LETTER_O_WITH_TILDE LATIN_CAPITAL_LETTER_O_WITH_DIAERESIS MULTIPLICATION_SIGN
   LATIN_CAPITAL_LETTER_O_WITH_STROKE LATIN_CAPITAL_LETTER_U_WITH_GRAVE LATIN_CAPITAL_LETTER_U_WITH_ACUTE
   LATIN_CAPITAL_LETTER_U_WITH_CIRCUMFLEX LATIN_CAPITAL_LETTER_U_WITH_DIAERESIS
   LATIN_CAPITAL_LETTER_Y_WITH_ACUTE LATIN_CAPITAL_LETTER_THORN LATIN_SMALL_LETTER_SHARP_S
   LATIN_SMALL_LETTER_A_WITH_GRAVE LATIN_SMALL_LETTER_A_WITH_ACUTE LATIN_SMALL_LETTER_A_WITH_CIRCUMFLEX
   LATIN_SMALL_LETTER_A_WITH_TILDE LATIN_SMALL_LETTER_A_WITH_DIAERESIS LATIN_SMALL_LETTER_A_WITH_RING_ABOVE
   LATIN_SMALL_LETTER_AE LATIN_SMALL_LETTER_C_WITH_CEDILLA LATIN_SMALL_LETTER_E_WITH_GRAVE
   LATIN_SMALL_LETTER_E_WITH_ACUTE LATIN_SMALL_LETTER_E_WITH_CIRCUMFLEX LATIN_SMALL_LETTER_E_WITH_DIAERESIS
   LATIN_SMALL_LETTER_I_WITH_GRAVE LATIN_SMALL_LETTER_I_WITH_ACUTE LATIN_SMALL_LETTER_I_WITH_CIRCUMFLEX
   LATIN_SMALL_LETTER_I_WITH_DIAERESIS LATIN_SMALL_LETTER_ETH LATIN_SMALL_LETTER_N_WITH_TILDE
   LATIN_SMALL_LETTER_O_WITH_GRAVE LATIN_SMALL_LETTER_O_WITH_ACUTE LATIN_SMALL_LETTER_O_WITH_CIRCUMFLEX
   LATIN_SMALL_LETTER_O_WITH_TILDE LATIN_SMALL_LETTER_O_WITH_DIAERESIS DIVISION_SIGN
   LATIN_SMALL_LETTER_O_WITH_STROKE LATIN_SMALL_LETTER_U_WITH_GRAVE LATIN_SMALL_LETTER_U_WITH_ACUTE
   LATIN_SMALL_LETTER_U_WITH_CIRCUMFLEX LATIN_SMALL_LETTER_U_WITH_DIAERESIS LATIN_SMALL_LETTER_Y_WITH_ACUTE
   LATIN_SMALL_LETTER_THORN LATIN_SMALL_LETTER_Y_WITH_DIAERESIS LATIN_CAPITAL_LETTER_A_WITH_MACRON
   LATIN_SMALL_LETTER_A_WITH_MACRON LATIN_CAPITAL_LETTER_A_WITH_BREVE LATIN_SMALL_LETTER_A_WITH_BREVE
   LATIN_CAPITAL_LETTER_A_WITH_OGONEK LATIN_SMALL_LETTER_A_WITH_OGONEK LATIN_CAPITAL_LETTER_C_WITH_ACUTE
   LATIN_SMALL_LETTER_C_WITH_ACUTE LATIN_CAPITAL_LETTER_C_WITH_CIRCUMFLEX
   LATIN_SMALL_LETTER_C_WITH_CIRCUMFLEX LATIN_CAPITAL_LETTER_C_WITH_DOT_ABOVE
   LATIN_SMALL_LETTER_C_WITH_DOT_ABOVE LATIN_CAPITAL_LETTER_C_WITH_CARON LATIN_SMALL_LETTER_C_WITH_CARON
   LATIN_CAPITAL_LETTER_D_WITH_CARON LATIN_SMALL_LETTER_D_WITH_CARON LATIN_CAPITAL_LETTER_D_WITH_STROKE
   LATIN_SMALL_LETTER_D_WITH_STROKE LATIN_CAPITAL_LETTER_E_WITH_MACRON LATIN_SMALL_LETTER_E_WITH_MACRON
   LATIN_CAPITAL_LETTER_E_WITH_BREVE LATIN_SMALL_LETTER_E_WITH_BREVE LATIN_CAPITAL_LETTER_E_WITH_DOT_ABOVE
   LATIN_SMALL_LETTER_E_WITH_DOT_ABOVE LATIN_CAPITAL_LETTER_E_WITH_OGONEK LATIN_SMALL_LETTER_E_WITH_OGONEK
   LATIN_CAPITAL_LETTER_E_WITH_CARON LATIN_SMALL_LETTER_E_WITH_CARON LATIN_CAPITAL_LETTER_G_WITH_CIRCUMFLEX
   LATIN_SMALL_LETTER_G_WITH_CIRCUMFLEX LATIN_CAPITAL_LETTER_G_WITH_BREVE LATIN_SMALL_LETTER_G_WITH_BREVE
   LATIN_CAPITAL_LETTER_G_WITH_DOT_ABOVE LATIN_SMALL_LETTER_G_WITH_DOT_ABOVE
   LATIN_CAPITAL_LETTER_G_WITH_CEDILLA LATIN_SMALL_LETTER_G_WITH_CEDILLA
   LATIN_CAPITAL_LETTER_H_WITH_CIRCUMFLEX LATIN_SMALL_LETTER_H_WITH_CIRCUMFLEX
   LATIN_CAPITAL_LETTER_H_WITH_STROKE LATIN_SMALL_LETTER_H_WITH_STROKE LATIN_CAPITAL_LETTER_I_WITH_TILDE
   LATIN_SMALL_LETTER_I_WITH_TILDE LATIN_CAPITAL_LETTER_I_WITH_MACRON LATIN_SMALL_LETTER_I_WITH_MACRON
   LATIN_CAPITAL_LETTER_I_WITH_BREVE LATIN_SMALL_LETTER_I_WITH_BREVE LATIN_CAPITAL_LETTER_I_WITH_OGONEK
   LATIN_SMALL_LETTER_I_WITH_OGONEK LATIN_CAPITAL_LETTER_I_WITH_DOT_ABOVE LATIN_SMALL_LETTER_DOTLESS_I
   LATIN_CAPITAL_LIGATURE_IJ LATIN_SMALL_LIGATURE_IJ LATIN_CAPITAL_LETTER_J_WITH_CIRCUMFLEX
   LATIN_SMALL_LETTER_J_WITH_CIRCUMFLEX LATIN_CAPITAL_LETTER_K_WITH_CEDILLA LATIN_SMALL_LETTER_K_WITH_CEDILLA
   LATIN_SMALL_LETTER_KRA LATIN_CAPITAL_LETTER_L_WITH_ACUTE LATIN_SMALL_LETTER_L_WITH_ACUTE
   LATIN_CAPITAL_LETTER_L_WITH_CEDILLA LATIN_SMALL_LETTER_L_WITH_CEDILLA LATIN_CAPITAL_LETTER_L_WITH_CARON
   LATIN_SMALL_LETTER_L_WITH_CARON LATIN_CAPITAL_LETTER_L_WITH_MIDDLE_DOT
   LATIN_SMALL_LETTER_L_WITH_MIDDLE_DOT LATIN_CAPITAL_LETTER_L_WITH_STROKE LATIN_SMALL_LETTER_L_WITH_STROKE
   LATIN_CAPITAL_LETTER_N_WITH_ACUTE LATIN_SMALL_LETTER_N_WITH_ACUTE LATIN_CAPITAL_LETTER_N_WITH_CEDILLA
   LATIN_SMALL_LETTER_N_WITH_CEDILLA LATIN_CAPITAL_LETTER_N_WITH_CARON LATIN_SMALL_LETTER_N_WITH_CARON
   LATIN_SMALL_LETTER_N_PRECEDED_BY_APOSTROPHE LATIN_CAPITAL_LETTER_ENG LATIN_SMALL_LETTER_ENG
   LATIN_CAPITAL_LETTER_O_WITH_MACRON LATIN_SMALL_LETTER_O_WITH_MACRON LATIN_CAPITAL_LETTER_O_WITH_BREVE
   LATIN_SMALL_LETTER_O_WITH_BREVE LATIN_CAPITAL_LETTER_O_WITH_DOUBLE_ACUTE
   LATIN_SMALL_LETTER_O_WITH_DOUBLE_ACUTE LATIN_CAPITAL_LIGATURE_OE LATIN_SMALL_LIGATURE_OE
   LATIN_CAPITAL_LETTER_R_WITH_ACUTE LATIN_SMALL_LETTER_R_WITH_ACUTE LATIN_CAPITAL_LETTER_R_WITH_CEDILLA
   LATIN_SMALL_LETTER_R_WITH_CEDILLA LATIN_CAPITAL_LETTER_R_WITH_CARON LATIN_SMALL_LETTER_R_WITH_CARON
   LATIN_CAPITAL_LETTER_S_WITH_ACUTE LATIN_SMALL_LETTER_S_WITH_ACUTE LATIN_CAPITAL_LETTER_S_WITH_CIRCUMFLEX
   LATIN_SMALL_LETTER_S_WITH_CIRCUMFLEX LATIN_CAPITAL_LETTER_S_WITH_CEDILLA LATIN_SMALL_LETTER_S_WITH_CEDILLA
   LATIN_CAPITAL_LETTER_S_WITH_CARON LATIN_SMALL_LETTER_S_WITH_CARON LATIN_CAPITAL_LETTER_T_WITH_CEDILLA
   LATIN_SMALL_LETTER_T_WITH_CEDILLA LATIN_CAPITAL_LETTER_T_WITH_CARON LATIN_SMALL_LETTER_T_WITH_CARON
   LATIN_CAPITAL_LETTER_T_WITH_STROKE LATIN_SMALL_LETTER_T_WITH_STROKE LATIN_CAPITAL_LETTER_U_WITH_TILDE
   LATIN_SMALL_LETTER_U_WITH_TILDE LATIN_CAPITAL_LETTER_U_WITH_MACRON LATIN_SMALL_LETTER_U_WITH_MACRON
   LATIN_CAPITAL_LETTER_U_WITH_BREVE LATIN_SMALL_LETTER_U_WITH_BREVE LATIN_CAPITAL_LETTER_U_WITH_RING_ABOVE
   LATIN_SMALL_LETTER_U_WITH_RING_ABOVE LATIN_CAPITAL_LETTER_U_WITH_DOUBLE_ACUTE
   LATIN_SMALL_LETTER_U_WITH_DOUBLE_ACUTE LATIN_CAPITAL_LETTER_U_WITH_OGONEK LATIN_SMALL_LETTER_U_WITH_OGONEK
   LATIN_CAPITAL_LETTER_W_WITH_CIRCUMFLEX LATIN_SMALL_LETTER_W_WITH_CIRCUMFLEX
   LATIN_CAPITAL_LETTER_Y_WITH_CIRCUMFLEX LATIN_SMALL_LETTER_Y_WITH_CIRCUMFLEX
   LATIN_CAPITAL_LETTER_Y_WITH_DIAERESIS LATIN_CAPITAL_LETTER_Z_WITH_ACUTE LATIN_SMALL_LETTER_Z_WITH_ACUTE
   LATIN_CAPITAL_LETTER_Z_WITH_DOT_ABOVE LATIN_SMALL_LETTER_Z_WITH_DOT_ABOVE
   LATIN_CAPITAL_LETTER_Z_WITH_CARON LATIN_SMALL_LETTER_Z_WITH_CARON LATIN_SMALL_LETTER_LONG_S
   192:LATIN_SMALL_LETTER_F_WITH_HOOK 2b0:MODIFIER_LETTER_SMALL_H MODIFIER_LETTER_SMALL_H_WITH_HOOK
   MODIFIER_LETTER_SMALL_J MODIFIER_LETTER_SMALL_R MODIFIER_LETTER_SMALL_TURNED_R
   MODIFIER_LETTER_SMALL_TURNED_R_WITH_HOOK MODIFIER_LETTER_SMALL_CAPITAL_INVERTED_R MODIFIER_LETTER_SMALL_W
   MODIFIER_LETTER_SMALL_Y MODIFIER_LETTER_PRIME MODIFIER_LETTER_DOUBLE_PRIME MODIFIER_LETTER_TURNED_COMMA
   MODIFIER_LETTER_APOSTROPHE MODIFIER_LETTER_REVERSED_COMMA MODIFIER_LETTER_RIGHT_HALF_RING
   MODIFIER_LETTER_LEFT_HALF_RING MODIFIER_LETTER_GLOTTAL_STOP MODIFIER_LETTER_REVERSED_GLOTTAL_STOP
   MODIFIER_LETTER_LEFT_ARROWHEAD MODIFIER_LETTER_RIGHT_ARROWHEAD MODIFIER_LETTER_UP_ARROWHEAD
   MODIFIER_LETTER_DOWN_ARROWHEAD MODIFIER_LETTER_CIRCUMFLEX_ACCENT CARON MODIFIER_LETTER_VERTICAL_LINE
   MODIFIER_LETTER_MACRON MODIFIER_LETTER_ACUTE_ACCENT MODIFIER_LETTER_GRAVE_ACCENT
   MODIFIER_LETTER_LOW_VERTICAL_LINE MODIFIER_LETTER_LOW_MACRON MODIFIER_LETTER_LOW_GRAVE_ACCENT
   MODIFIER_LETTER_LOW_ACUTE_ACCENT MODIFIER_LETTER_TRIANGULAR_COLON MODIFIER_LETTER_HALF_TRIANGULAR_COLON
   MODIFIER_LETTER_CENTRED_RIGHT_HALF_RING MODIFIER_LETTER_CENTRED_LEFT_HALF_RING MODIFIER_LETTER_UP_TACK
   MODIFIER_LETTER_DOWN_TACK MODIFIER_LETTER_PLUS_SIGN MODIFIER_LETTER_MINUS_SIGN BREVE DOT_ABOVE RING_ABOVE
   OGONEK SMALL_TILDE DOUBLE_ACUTE_ACCENT MODIFIER_LETTER_RHOTIC_HOOK MODIFIER_LETTER_CROSS_ACCENT
   MODIFIER_LETTER_SMALL_GAMMA MODIFIER_LETTER_SMALL_L MODIFIER_LETTER_SMALL_S MODIFIER_LETTER_SMALL_X
   MODIFIER_LETTER_SMALL_REVERSED_GLOTTAL_STOP MODIFIER_LETTER_EXTRA-HIGH_TONE_BAR
   MODIFIER_LETTER_HIGH_TONE_BAR MODIFIER_LETTER_MID_TONE_BAR MODIFIER_LETTER_LOW_TONE_BAR
   MODIFIER_LETTER_EXTRA-LOW_TONE_BAR MODIFIER_LETTER_YIN_DEPARTING_TONE_MARK
   MODIFIER_LETTER_YANG_DEPARTING_TONE_MARK MODIFIER_LETTER_VOICING MODIFIER_LETTER_UNASPIRATED
   MODIFIER_LETTER_DOUBLE_APOSTROPHE MODIFIER_LETTER_LOW_DOWN_ARROWHEAD MODIFIER_LETTER_LOW_UP_ARROWHEAD
   MODIFIER_LETTER_LOW_LEFT_ARROWHEAD MODIFIER_LETTER_LOW_RIGHT_ARROWHEAD MODIFIER_LETTER_LOW_RING
   MODIFIER_LETTER_MIDDLE_GRAVE_ACCENT MODIFIER_LETTER_MIDDLE_DOUBLE_GRAVE_ACCENT
   MODIFIER_LETTER_MIDDLE_DOUBLE_ACUTE_ACCENT MODIFIER_LETTER_LOW_TILDE MODIFIER_LETTER_RAISED_COLON
   MODIFIER_LETTER_BEGIN_HIGH_TONE MODIFIER_LETTER_END_HIGH_TONE MODIFIER_LETTER_BEGIN_LOW_TONE
   MODIFIER_LETTER_END_LOW_TONE MODIFIER_LETTER_SHELF MODIFIER_LETTER_OPEN_SHELF
   MODIFIER_LETTER_LOW_LEFT_ARROW COMBINING_GRAVE_ACCENT COMBINING_ACUTE_ACCENT COMBINING_CIRCUMFLEX_ACCENT
   COMBINING_TILDE COMBINING_MACRON COMBINING_OVERLINE COMBINING_BREVE COMBINING_DOT_ABOVE
   COMBINING_DIAERESIS COMBINING_HOOK_ABOVE COMBINING_RING_ABOVE COMBINING_DOUBLE_ACUTE_ACCENT
   COMBINING_CARON COMBINING_VERTICAL_LINE_ABOVE COMBINING_DOUBLE_VERTICAL_LINE_ABOVE
   COMBINING_DOUBLE_GRAVE_ACCENT COMBINING_CANDRABINDU COMBINING_INVERTED_BREVE COMBINING_TURNED_COMMA_ABOVE
   COMBINING_COMMA_ABOVE COMBINING_REVERSED_COMMA_ABOVE COMBINING_COMMA_ABOVE_RIGHT
   COMBINING_GRAVE_ACCENT_BELOW COMBINING_ACUTE_ACCENT_BELOW COMBINING_LEFT_TACK_BELOW
   COMBINING_RIGHT_TACK_BELOW COMBINING_LEFT_ANGLE_ABOVE COMBINING_HORN COMBINING_LEFT_HALF_RING_BELOW
   COMBINING_UP_TACK_BELOW COMBINING_DOWN_TACK_BELOW COMBINING_PLUS_SIGN_BELOW COMBINING_MINUS_SIGN_BELOW
   COMBINING_PALATALIZED_HOOK_BELOW COMBINING_RETROFLEX_HOOK_BELOW COMBINING_DOT_BELOW
   COMBINING_DIAERESIS_BELOW COMBINING_RING_BELOW COMBINING_COMMA_BELOW COMBINING_CEDILLA COMBINING_OGONEK
   COMBINING_VERTICAL_LINE_BELOW COMBINING_BRIDGE_BELOW COMBINING_INVERTED_DOUBLE_ARCH_BELOW
   COMBINING_CARON_BELOW COMBINING_CIRCUMFLEX_ACCENT_BELOW COMBINING_BREVE_BELOW
   COMBINING_INVERTED_BREVE_BELOW COMBINING_TILDE_BELOW COMBINING_MACRON_BELOW COMBINING_LOW_LINE
   COMBINING_DOUBLE_LOW_LINE COMBINING_TILDE_OVERLAY COMBINING_SHORT_STROKE_OVERLAY
   COMBINING_LONG_STROKE_OVERLAY COMBINING_SHORT_SOLIDUS_OVERLAY COMBINING_LONG_SOLIDUS_OVERLAY
   COMBINING_RIGHT_HALF_RING_BELOW COMBINING_INVERTED_BRIDGE_BELOW COMBINING_SQUARE_BELOW
   COMBINING_SEAGULL_BELOW COMBINING_X_ABOVE COMBINING_VERTICAL_TILDE COMBINING_DOUBLE_OVERLINE
   COMBINING_GRAVE_TONE_MARK COMBINING_ACUTE_TONE_MARK COMBINING_GREEK_PERISPOMENI COMBINING_GREEK_KORONIS
   COMBINING_GREEK_DIALYTIKA_TONOS COMBINING_GREEK_YPOGEGRAMMENI COMBINING_BRIDGE_ABOVE
   COMBINING_EQUALS_SIGN_BELOW COMBINING_DOUBLE_VERTICAL_LINE_BELOW COMBINING_LEFT_ANGLE_BELOW
   COMBINING_NOT_TILDE_ABOVE COMBINING_HOMOTHETIC_ABOVE COMBINING_ALMOST_EQUAL_TO_ABOVE
   COMBINING_LEFT_RIGHT_ARROW_BELOW COMBINING_UPWARDS_ARROW_BELOW COMBINING_GRAPHEME_JOINER
   COMBINING_RIGHT_ARROWHEAD_ABOVE COMBINING_LEFT_HALF_RING_ABOVE COMBINING_FERMATA COMBINING_X_BELOW
   COMBINING_LEFT_ARROWHEAD_BELOW COMBINING_RIGHT_ARROWHEAD_BELOW
   COMBINING_RIGHT_ARROWHEAD_AND_UP_ARROWHEAD_BELOW COMBINING_RIGHT_HALF_RING_ABOVE COMBINING_DOT_ABOVE_RIGHT
   COMBINING_ASTERISK_BELOW COMBINING_DOUBLE_RING_BELOW COMBINING_ZIGZAG_ABOVE COMBINING_DOUBLE_BREVE_BELOW
   COMBINING_DOUBLE_BREVE COMBINING_DOUBLE_MACRON COMBINING_DOUBLE_MACRON_BELOW COMBINING_DOUBLE_TILDE
   COMBINING_DOUBLE_INVERTED_BREVE COMBINING_DOUBLE_RIGHTWARDS_ARROW_BELOW COMBINING_LATIN_SMALL_LETTER_A
   COMBINING_LATIN_SMALL_LETTER_E COMBINING_LATIN_SMALL_LETTER_I COMBINING_LATIN_SMALL_LETTER_O
   COMBINING_LATIN_SMALL_LETTER_U COMBINING_LATIN_SMALL_LETTER_C COMBINING_LATIN_SMALL_LETTER_D
   COMBINING_LATIN_SMALL_LETTER_H COMBINING_LATIN_SMALL_LETTER_M COMBINING_LATIN_SMALL_LETTER_R
   COMBINING_LATIN_SMALL_LETTER_T COMBINING_LATIN_SMALL_LETTER_V COMBINING_LATIN_SMALL_LETTER_X
   GREEK_CAPITAL_LETTER_HETA GREEK_SMALL_LETTER_HETA GREEK_CAPITAL_LETTER_ARCHAIC_SAMPI
   GREEK_SMALL_LETTER_ARCHAIC_SAMPI GREEK_NUMERAL_SIGN GREEK_LOWER_NUMERAL_SIGN
   GREEK_CAPITAL_LETTER_PAMPHYLIAN_DIGAMMA GREEK_SMALL_LETTER_PAMPHYLIAN_DIGAMMA 37a:GREEK_YPOGEGRAMMENI
   GREEK_SMALL_REVERSED_LUNATE_SIGMA_SYMBOL GREEK_SMALL_DOTTED_LUNATE_SIGMA_SYMBOL
   GREEK_SMALL_REVERSED_DOTTED_LUNATE_SIGMA_SYMBOL GREEK_QUESTION_MARK GREEK_CAPITAL_LETTER_YOT
   384:GREEK_TONOS GREEK_DIALYTIKA_TONOS GREEK_CAPITAL_LETTER_ALPHA_WITH_TONOS GREEK_ANO_TELEIA
   GREEK_CAPITAL_LETTER_EPSILON_WITH_TONOS GREEK_CAPITAL_LETTER_ETA_WITH_TONOS
   GREEK_CAPITAL_LETTER_IOTA_WITH_TONOS 38c:GREEK_CAPITAL_LETTER_OMICRON_WITH_TONOS
   38e:GREEK_CAPITAL_LETTER_UPSILON_WITH_TONOS GREEK_CAPITAL_LETTER_OMEGA_WITH_TONOS
   GREEK_SMALL_LETTER_IOTA_WITH_DIALYTIKA_AND_TONOS GREEK_CAPITAL_LETTER_ALPHA GREEK_CAPITAL_LETTER_BETA
   GREEK_CAPITAL_LETTER_GAMMA GREEK_CAPITAL_LETTER_DELTA GREEK_CAPITAL_LETTER_EPSILON
   GREEK_CAPITAL_LETTER_ZETA GREEK_CAPITAL_LETTER_ETA GREEK_CAPITAL_LETTER_THETA GREEK_CAPITAL_LETTER_IOTA
   GREEK_CAPITAL_LETTER_KAPPA GREEK_CAPITAL_LETTER_LAMDA GREEK_CAPITAL_LETTER_MU GREEK_CAPITAL_LETTER_NU
   GREEK_CAPITAL_LETTER_XI GREEK_CAPITAL_LETTER_OMICRON GREEK_CAPITAL_LETTER_PI GREEK_CAPITAL_LETTER_RHO
   3a3:GREEK_CAPITAL_LETTER_SIGMA GREEK_CAPITAL_LETTER_TAU GREEK_CAPITAL_LETTER_UPSILON
   GREEK_CAPITAL_LETTER_PHI GREEK_CAPITAL_LETTER_CHI GREEK_CAPITAL_LETTER_PSI GREEK_CAPITAL_LETTER_OMEGA
   GREEK_CAPITAL_LETTER_IOTA_WITH_DIALYTIKA GREEK_CAPITAL_LETTER_UPSILON_WITH_DIALYTIKA
   GREEK_SMALL_LETTER_ALPHA_WITH_TONOS GREEK_SMALL_LETTER_EPSILON_WITH_TONOS
   GREEK_SMALL_LETTER_ETA_WITH_TONOS GREEK_SMALL_LETTER_IOTA_WITH_TONOS
   GREEK_SMALL_LETTER_UPSILON_WITH_DIALYTIKA_AND_TONOS GREEK_SMALL_LETTER_ALPHA GREEK_SMALL_LETTER_BETA
   GREEK_SMALL_LETTER_GAMMA GREEK_SMALL_LETTER_DELTA GREEK_SMALL_LETTER_EPSILON GREEK_SMALL_LETTER_ZETA
   GREEK_SMALL_LETTER_ETA GREEK_SMALL_LETTER_THETA GREEK_SMALL_LETTER_IOTA GREEK_SMALL_LETTER_KAPPA
   GREEK_SMALL_LETTER_LAMDA GREEK_SMALL_LETTER_MU GREEK_SMALL_LETTER_NU GREEK_SMALL_LETTER_XI
   GREEK_SMALL_LETTER_OMICRON GREEK_SMALL_LETTER_PI GREEK_SMALL_LETTER_RHO GREEK_SMALL_LETTER_FINAL_SIGMA
   GREEK_SMALL_LETTER_SIGMA GREEK_SMALL_LETTER_TAU GREEK_SMALL_LETTER_UPSILON GREEK_SMALL_LETTER_PHI
   GREEK_SMALL_LETTER_CHI GREEK_SMALL_LETTER_PSI GREEK_SMALL_LETTER_OMEGA
   GREEK_SMALL_LETTER_IOTA_WITH_DIALYTIKA GREEK_SMALL_LETTER_UPSILON_WITH_DIALYTIKA
   GREEK_SMALL_LETTER_OMICRON_WITH_TONOS GREEK_SMALL_LETTER_UPSILON_WITH_TONOS
   GREEK_SMALL_LETTER_OMEGA_WITH_TONOS GREEK_CAPITAL_KAI_SYMBOL GREEK_BETA_SYMBOL GREEK_THETA_SYMBOL
   GREEK_UPSILON_WITH_HOOK_SYMBOL GREEK_UPSILON_WITH_ACUTE_AND_HOOK_SYMBOL
   GREEK_UPSILON_WITH_DIAERESIS_AND_HOOK_SYMBOL GREEK_PHI_SYMBOL GREEK_PI_SYMBOL GREEK_KAI_SYMBOL
   GREEK_LETTER_ARCHAIC_KOPPA GREEK_SMALL_LETTER_ARCHAIC_KOPPA GREEK_LETTER_STIGMA GREEK_SMALL_LETTER_STIGMA
   GREEK_LETTER_DIGAMMA GREEK_SMALL_LETTER_DIGAMMA GREEK_LETTER_KOPPA GREEK_SMALL_LETTER_KOPPA
   GREEK_LETTER_SAMPI GREEK_SMALL_LETTER_SAMPI COPTIC_CAPITAL_LETTER_SHEI COPTIC_SMALL_LETTER_SHEI
   COPTIC_CAPITAL_LETTER_FEI COPTIC_SMALL_LETTER_FEI COPTIC_CAPITAL_LETTER_KHEI COPTIC_SMALL_LETTER_KHEI
   COPTIC_CAPITAL_LETTER_HORI COPTIC_SMALL_LETTER_HORI COPTIC_CAPITAL_LETTER_GANGIA
   COPTIC_SMALL_LETTER_GANGIA COPTIC_CAPITAL_LETTER_SHIMA COPTIC_SMALL_LETTER_SHIMA COPTIC_CAPITAL_LETTER_DEI
   COPTIC_SMALL_LETTER_DEI GREEK_KAPPA_SYMBOL GREEK_RHO_SYMBOL GREEK_LUNATE_SIGMA_SYMBOL GREEK_LETTER_YOT
   GREEK_CAPITAL_THETA_SYMBOL GREEK_LUNATE_EPSILON_SYMBOL GREEK_REVERSED_LUNATE_EPSILON_SYMBOL
   GREEK_CAPITAL_LETTER_SHO GREEK_SMALL_LETTER_SHO GREEK_CAPITAL_LUNATE_SIGMA_SYMBOL GREEK_CAPITAL_LETTER_SAN
   GREEK_SMALL_LETTER_SAN GREEK_RHO_WITH_STROKE_SYMBOL GREEK_CAPITAL_REVERSED_LUNATE_SIGMA_SYMBOL
   GREEK_CAPITAL_DOTTED_LUNATE_SIGMA_SYMBOL GREEK_CAPITAL_REVERSED_DOTTED_LUNATE_SIGMA_SYMBOL
   CYRILLIC_CAPITAL_LETTER_IE_WITH_GRAVE CYRILLIC_CAPITAL_LETTER_IO CYRILLIC_CAPITAL_LETTER_DJE
   CYRILLIC_CAPITAL_LETTER_GJE CYRILLIC_CAPITAL_LETTER_UKRAINIAN_IE CYRILLIC_CAPITAL_LETTER_DZE
   CYRILLIC_CAPITAL_LETTER_BYELORUSSIAN-UKRAINIAN_I CYRILLIC_CAPITAL_LETTER_YI CYRILLIC_CAPITAL_LETTER_JE
   CYRILLIC_CAPITAL_LETTER_LJE CYRILLIC_CAPITAL_LETTER_NJE CYRILLIC_CAPITAL_LETTER_TSHE
   CYRILLIC_CAPITAL_LETTER_KJE CYRILLIC_CAPITAL_LETTER_I_WITH_GRAVE CYRILLIC_CAPITAL_LETTER_SHORT_U
   CYRILLIC_CAPITAL_LETTER_DZHE CYRILLIC_CAPITAL_LETTER_A CYRILLIC_CAPITAL_LETTER_BE
   CYRILLIC_CAPITAL_LETTER_VE CYRILLIC_CAPITAL_LETTER_GHE CYRILLIC_CAPITAL_LETTER_DE
   CYRILLIC_CAPITAL_LETTER_IE CYRILLIC_CAPITAL_LETTER_ZHE CYRILLIC_CAPITAL_LETTER_ZE
   CYRILLIC_CAPITAL_LETTER_I CYRILLIC_CAPITAL_LETTER_SHORT_I CYRILLIC_CAPITAL_LETTER_KA
   CYRILLIC_CAPITAL_LETTER_EL CYRILLIC_CAPITAL_LETTER_EM CYRILLIC_CAPITAL_LETTER_EN CYRILLIC_CAPITAL_LETTER_O
   CYRILLIC_CAPITAL_LETTER_PE CYRILLIC_CAPITAL_LETTER_ER CYRILLIC_CAPITAL_LETTER_ES
   CYRILLIC_CAPITAL_LETTER_TE CYRILLIC_CAPITAL_LETTER_U CYRILLIC_CAPITAL_LETTER_EF CYRILLIC_CAPITAL_LETTER_HA
   CYRILLIC_CAPITAL_LETTER_TSE CYRILLIC_CAPITAL_LETTER_CHE CYRILLIC_CAPITAL_LETTER_SHA
   CYRILLIC_CAPITAL_LETTER_SHCHA CYRILLIC_CAPITAL_LETTER_HARD_SIGN CYRILLIC_CAPITAL_LETTER_YERU
   CYRILLIC_CAPITAL_LETTER_SOFT_SIGN CYRILLIC_CAPITAL_LETTER_E CYRILLIC_CAPITAL_LETTER_YU
   CYRILLIC_CAPITAL_LETTER_YA CYRILLIC_SMALL_LETTER_A CYRILLIC_SMALL_LETTER_BE CYRILLIC_SMALL_LETTER_VE
   CYRILLIC_SMALL_LETTER_GHE CYRILLIC_SMALL_LETTER_DE CYRILLIC_SMALL_LETTER_IE CYRILLIC_SMALL_LETTER_ZHE
   CYRILLIC_SMALL_LETTER_ZE CYRILLIC_SMALL_LETTER_I CYRILLIC_SMALL_LETTER_SHORT_I CYRILLIC_SMALL_LETTER_KA
   CYRILLIC_SMALL_LETTER_EL CYRILLIC_SMALL_LETTER_EM CYRILLIC_SMALL_LETTER_EN CYRILLIC_SMALL_LETTER_O
   CYRILLIC_SMALL_LETTER_PE CYRILLIC_SMALL_LETTER_ER CYRILLIC_SMALL_LETTER_ES CYRILLIC_SMALL_LETTER_TE
   CYRILLIC_SMALL_LETTER_U CYRILLIC_SMALL_LETTER_EF CYRILLIC_SMALL_LETTER_HA CYRILLIC_SMALL_LETTER_TSE
   CYRILLIC_SMALL_LETTER_CHE CYRILLIC_SMALL_LETTER_SHA CYRILLIC_SMALL_LETTER_SHCHA
   CYRILLIC_SMALL_LETTER_HARD_SIGN CYRILLIC_SMALL_LETTER_YERU CYRILLIC_SMALL_LETTER_SOFT_SIGN
   CYRILLIC_SMALL_LETTER_E CYRILLIC_SMALL_LETTER_YU CYRILLIC_SMALL_LETTER_YA
   CYRILLIC_SMALL_LETTER_IE_WITH_GRAVE CYRILLIC_SMALL_LETTER_IO CYRILLIC_SMALL_LETTER_DJE
   CYRILLIC_SMALL_LETTER_GJE CYRILLIC_SMALL_LETTER_UKRAINIAN_IE CYRILLIC_SMALL_LETTER_DZE
   CYRILLIC_SMALL_LETTER_BYELORUSSIAN-UKRAINIAN_I CYRILLIC_SMALL_LETTER_YI CYRILLIC_SMALL_LETTER_JE
   CYRILLIC_SMALL_LETTER_LJE CYRILLIC_SMALL_LETTER_NJE CYRILLIC_SMALL_LETTER_TSHE CYRILLIC_SMALL_LETTER_KJE
   CYRILLIC_SMALL_LETTER_I_WITH_GRAVE CYRILLIC_SMALL_LETTER_SHORT_U CYRILLIC_SMALL_LETTER_DZHE 2000:EN_QUAD
   EM_QUAD EN_SPACE EM_SPACE THREE-PER-EM_SPACE FOUR-PER-EM_SPACE SIX-PER-EM_SPACE FIGURE_SPACE
   PUNCTUATION_SPACE THIN_SPACE HAIR_SPACE ZERO_WIDTH_SPACE ZERO_WIDTH_NON-JOINER ZERO_WIDTH_JOINER
   LEFT-TO-RIGHT_MARK RIGHT-TO-LEFT_MARK HYPHEN NON-BREAKING_HYPHEN FIGURE_DASH EN_DASH EM_DASH
   HORIZONTAL_BAR DOUBLE_VERTICAL_LINE DOUBLE_LOW_LINE LEFT_SINGLE_QUOTATION_MARK RIGHT_SINGLE_QUOTATION_MARK
   SINGLE_LOW-9_QUOTATION_MARK SINGLE_HIGH-REVERSED-9_QUOTATION_MARK LEFT_DOUBLE_QUOTATION_MARK
   RIGHT_DOUBLE_QUOTATION_MARK DOUBLE_LOW-9_QUOTATION_MARK DOUBLE_HIGH-REVERSED-9_QUOTATION_MARK DAGGER
   DOUBLE_DAGGER BULLET TRIANGULAR_BULLET ONE_DOT_LEADER TWO_DOT_LEADER HORIZONTAL_ELLIPSIS HYPHENATION_POINT
   LINE_SEPARATOR PARAGRAPH_SEPARATOR LEFT-TO-RIGHT_EMBEDDING RIGHT-TO-LEFT_EMBEDDING
   POP_DIRECTIONAL_FORMATTING LEFT-TO-RIGHT_OVERRIDE RIGHT-TO-LEFT_OVERRIDE NARROW_NO-BREAK_SPACE
   PER_MILLE_SIGN PER_TEN_THOUSAND_SIGN PRIME DOUBLE_PRIME TRIPLE_PRIME REVERSED_PRIME REVERSED_DOUBLE_PRIME
   REVERSED_TRIPLE_PRIME CARET SINGLE_LEFT-POINTING_ANGLE_QUOTATION_MARK
   SINGLE_RIGHT-POINTING_ANGLE_QUOTATION_MARK REFERENCE_MARK DOUBLE_EXCLAMATION_MARK INTERROBANG OVERLINE
   UNDERTIE CHARACTER_TIE CARET_INSERTION_POINT ASTERISM HYPHEN_BULLET FRACTION_SLASH
   LEFT_SQUARE_BRACKET_WITH_QUILL RIGHT_SQUARE_BRACKET_WITH_QUILL DOUBLE_QUESTION_MARK
   QUESTION_EXCLAMATION_MARK EXCLAMATION_QUESTION_MARK TIRONIAN_SIGN_ET REVERSED_PILCROW_SIGN
   BLACK_LEFTWARDS_BULLET BLACK_RIGHTWARDS_BULLET LOW_ASTERISK REVERSED_SEMICOLON CLOSE_UP
   TWO_ASTERISKS_ALIGNED_VERTICALLY COMMERCIAL_MINUS_SIGN SWUNG_DASH INVERTED_UNDERTIE
   FLOWER_PUNCTUATION_MARK THREE_DOT_PUNCTUATION QUADRUPLE_PRIME FOUR_DOT_PUNCTUATION FIVE_DOT_PUNCTUATION
   TWO_DOT_PUNCTUATION FOUR_DOT_MARK DOTTED_CROSS TRICOLON VERTICAL_FOUR_DOTS MEDIUM_MATHEMATICAL_SPACE
   WORD_JOINER FUNCTION_APPLICATION INVISIBLE_TIMES INVISIBLE_SEPARATOR INVISIBLE_PLUS
   2066:LEFT-TO-RIGHT_ISOLATE RIGHT-TO-LEFT_ISOLATE FIRST_STRONG_ISOLATE POP_DIRECTIONAL_ISOLATE
   INHIBIT_SYMMETRIC_SWAPPING ACTIVATE_SYMMETRIC_SWAPPING INHIBIT_ARABIC_FORM_SHAPING
   ACTIVATE_ARABIC_FORM_SHAPING NATIONAL_DIGIT_SHAPES NOMINAL_DIGIT_SHAPES SUPERSCRIPT_ZERO
   SUPERSCRIPT_LATIN_SMALL_LETTER_I 2074:SUPERSCRIPT_FOUR SUPERSCRIPT_FIVE SUPERSCRIPT_SIX SUPERSCRIPT_SEVEN
   SUPERSCRIPT_EIGHT SUPERSCRIPT_NINE SUPERSCRIPT_PLUS_SIGN SUPERSCRIPT_MINUS SUPERSCRIPT_EQUALS_SIGN
   SUPERSCRIPT_LEFT_PARENTHESIS SUPERSCRIPT_RIGHT_PARENTHESIS SUPERSCRIPT_LATIN_SMALL_LETTER_N SUBSCRIPT_ZERO
   SUBSCRIPT_ONE SUBSCRIPT_TWO SUBSCRIPT_THREE SUBSCRIPT_FOUR SUBSCRIPT_FIVE SUBSCRIPT_SIX SUBSCRIPT_SEVEN
   SUBSCRIPT_EIGHT SUBSCRIPT_NINE SUBSCRIPT_PLUS_SIGN SUBSCRIPT_MINUS SUBSCRIPT_EQUALS_SIGN
   SUBSCRIPT_LEFT_PARENTHESIS SUBSCRIPT_RIGHT_PARENTHESIS 2090:LATIN_SUBSCRIPT_SMALL_LETTER_A
   LATIN_SUBSCRIPT_SMALL_LETTER_E LATIN_SUBSCRIPT_SMALL_LETTER_O LATIN_SUBSCRIPT_SMALL_LETTER_X
   LATIN_SUBSCRIPT_SMALL_LETTER_SCHWA LATIN_SUBSCRIPT_SMALL_LETTER_H LATIN_SUBSCRIPT_SMALL_LETTER_K
   LATIN_SUBSCRIPT_SMALL_LETTER_L LATIN_SUBSCRIPT_SMALL_LETTER_M LATIN_SUBSCRIPT_SMALL_LETTER_N
   LATIN_SUBSCRIPT_SMALL_LETTER_P LATIN_SUBSCRIPT_SMALL_LETTER_S LATIN_SUBSCRIPT_SMALL_LETTER_T
   20a0:EURO-CURRENCY_SIGN COLON_SIGN CRUZEIRO_SIGN FRENCH_FRANC_SIGN LIRA_SIGN MILL_SIGN NAIRA_SIGN
   PESETA_SIGN RUPEE_SIGN WON_SIGN NEW_SHEQEL_SIGN DONG_SIGN EURO_SIGN KIP_SIGN TUGRIK_SIGN DRACHMA_SIGN
   GERMAN_PENNY_SIGN PESO_SIGN GUARANI_SIGN AUSTRAL_SIGN HRYVNIA_SIGN CEDI_SIGN LIVRE_TOURNOIS_SIGN
   SPESMILO_SIGN TENGE_SIGN INDIAN_RUPEE_SIGN TURKISH_LIRA_SIGN NORDIC_MARK_SIGN MANAT_SIGN RUBLE_SIGN
   LARI_SIGN BITCOIN_SIGN SOM_SIGN 2100:ACCOUNT_OF ADDRESSED_TO_THE_SUBJECT DOUBLE-STRUCK_CAPITAL_C
   DEGREE_CELSIUS CENTRE_LINE_SYMBOL CARE_OF CADA_UNA EULER_CONSTANT SCRUPLE DEGREE_FAHRENHEIT SCRIPT_SMALL_G
   SCRIPT_CAPITAL_H BLACK-LETTER_CAPITAL_H DOUBLE-STRUCK_CAPITAL_H PLANCK_CONSTANT
   PLANCK_CONSTANT_OVER_TWO_PI SCRIPT_CAPITAL_I BLACK-LETTER_CAPITAL_I SCRIPT_CAPITAL_L SCRIPT_SMALL_L
   L_B_BAR_SYMBOL DOUBLE-STRUCK_CAPITAL_N NUMERO_SIGN SOUND_RECORDING_COPYRIGHT SCRIPT_CAPITAL_P
   DOUBLE-STRUCK_CAPITAL_P DOUBLE-STRUCK_CAPITAL_Q SCRIPT_CAPITAL_R BLACK-LETTER_CAPITAL_R
   DOUBLE-STRUCK_CAPITAL_R PRESCRIPTION_TAKE RESPONSE SERVICE_MARK TELEPHONE_SIGN TRADE_MARK_SIGN VERSICLE
   DOUBLE-STRUCK_CAPITAL_Z OUNCE_SIGN OHM_SIGN INVERTED_OHM_SIGN BLACK-LETTER_CAPITAL_Z
   TURNED_GREEK_SMALL_LETTER_IOTA KELVIN_SIGN ANGSTROM_SIGN SCRIPT_CAPITAL_B BLACK-LETTER_CAPITAL_C
   ESTIMATED_SYMBOL SCRIPT_SMALL_E SCRIPT_CAPITAL_E SCRIPT_CAPITAL_F TURNED_CAPITAL_F SCRIPT_CAPITAL_M
   SCRIPT_SMALL_O ALEF_SYMBOL BET_SYMBOL GIMEL_SYMBOL DALET_SYMBOL INFORMATION_SOURCE ROTATED_CAPITAL_Q
   FACSIMILE_SIGN DOUBLE-STRUCK_SMALL_PI DOUBLE-STRUCK_SMALL_GAMMA DOUBLE-STRUCK_CAPITAL_GAMMA
   DOUBLE-STRUCK_CAPITAL_PI DOUBLE-STRUCK_N-ARY_SUMMATION TURNED_SANS-SERIF_CAPITAL_G
   TURNED_SANS-SERIF_CAPITAL_L REVERSED_SANS-SERIF_CAPITAL_L TURNED_SANS-SERIF_CAPITAL_Y
   DOUBLE-STRUCK_ITALIC_CAPITAL_D DOUBLE-STRUCK_ITALIC_SMALL_D DOUBLE-STRUCK_ITALIC_SMALL_E
   DOUBLE-STRUCK_ITALIC_SMALL_I DOUBLE-STRUCK_ITALIC_SMALL_J PROPERTY_LINE TURNED_AMPERSAND PER_SIGN
   AKTIESELSKAB TURNED_SMALL_F SYMBOL_FOR_SAMARITAN_SOURCE VULGAR_FRACTION_ONE_SEVENTH
   VULGAR_FRACTION_ONE_NINTH VULGAR_FRACTION_ONE_TENTH VULGAR_FRACTION_ONE_THIRD VULGAR_FRACTION_TWO_THIRDS
   VULGAR_FRACTION_ONE_FIFTH VULGAR_FRACTION_TWO_FIFTHS VULGAR_FRACTION_THREE_FIFTHS
   VULGAR_FRACTION_FOUR_FIFTHS VULGAR_FRACTION_ONE_SIXTH VULGAR_FRACTION_FIVE_SIXTHS
   VULGAR_FRACTION_ONE_EIGHTH VULGAR_FRACTION_THREE_EIGHTHS VULGAR_FRACTION_FIVE_EIGHTHS
   VULGAR_FRACTION_SEVEN_EIGHTHS FRACTION_NUMERATOR_ONE ROMAN_NUMERAL_ONE ROMAN_NUMERAL_TWO
   ROMAN_NUMERAL_THREE ROMAN_NUMERAL_FOUR ROMAN_NUMERAL_FIVE ROMAN_NUMERAL_SIX ROMAN_NUMERAL_SEVEN
   ROMAN_NUMERAL_EIGHT ROMAN_NUMERAL_NINE ROMAN_NUMERAL_TEN ROMAN_NUMERAL_ELEVEN ROMAN_NUMERAL_TWELVE
   ROMAN_NUMERAL_FIFTY ROMAN_NUMERAL_ONE_HUNDRED ROMAN_NUMERAL_FIVE_HUNDRED ROMAN_NUMERAL_ONE_THOUSAND
   SMALL_ROMAN_NUMERAL_ONE SMALL_ROMAN_NUMERAL_TWO SMALL_ROMAN_NUMERAL_THREE SMALL_ROMAN_NUMERAL_FOUR
   SMALL_ROMAN_NUMERAL_FIVE SMALL_ROMAN_NUMERAL_SIX SMALL_ROMAN_NUMERAL_SEVEN SMALL_ROMAN_NUMERAL_EIGHT
   SMALL_ROMAN_NUMERAL_NINE SMALL_ROMAN_NUMERAL_TEN SMALL_ROMAN_NUMERAL_ELEVEN SMALL_ROMAN_NUMERAL_TWELVE
   SMALL_ROMAN_NUMERAL_FIFTY SMALL_ROMAN_NUMERAL_ONE_HUNDRED SMALL_ROMAN_NUMERAL_FIVE_HUNDRED
   SMALL_ROMAN_NUMERAL_ONE_THOUSAND ROMAN_NUMERAL_ONE_THOUSAND_C_D ROMAN_NUMERAL_FIVE_THOUSAND
   ROMAN_NUMERAL_TEN_THOUSAND ROMAN_NUMERAL_REVERSED_ONE_HUNDRED LATIN_SMALL_LETTER_REVERSED_C
   ROMAN_NUMERAL_SIX_LATE_FORM ROMAN_NUMERAL_FIFTY_EARLY_FORM ROMAN_NUMERAL_FIFTY_THOUSAND
   ROMAN_NUMERAL_ONE_HUNDRED_THOUSAND VULGAR_FRACTION_ZERO_THIRDS TURNED_DIGIT_TWO TURNED_DIGIT_THREE
   2190:LEFTWARDS_ARROW UPWARDS_ARROW RIGHTWARDS_ARROW DOWNWARDS_ARROW LEFT_RIGHT_ARROW UP_DOWN_ARROW
   NORTH_WEST_ARROW NORTH_EAST_ARROW SOUTH_EAST_ARROW SOUTH_WEST_ARROW LEFTWARDS_ARROW_WITH_STROKE
   RIGHTWARDS_ARROW_WITH_STROKE LEFTWARDS_WAVE_ARROW RIGHTWARDS_WAVE_ARROW LEFTWARDS_TWO_HEADED_ARROW
   UPWARDS_TWO_HEADED_ARROW RIGHTWARDS_TWO_HEADED_ARROW DOWNWARDS_TWO_HEADED_ARROW LEFTWARDS_ARROW_WITH_TAIL
   RIGHTWARDS_ARROW_WITH_TAIL LEFTWARDS_ARROW_FROM_BAR UPWARDS_ARROW_FROM_BAR RIGHTWARDS_ARROW_FROM_BAR
   DOWNWARDS_ARROW_FROM_BAR UP_DOWN_ARROW_WITH_BASE LEFTWARDS_ARROW_WITH_HOOK RIGHTWARDS_ARROW_WITH_HOOK
   LEFTWARDS_ARROW_WITH_LOOP RIGHTWARDS_ARROW_WITH_LOOP LEFT_RIGHT_WAVE_ARROW LEFT_RIGHT_ARROW_WITH_STROKE
   DOWNWARDS_ZIGZAG_ARROW UPWARDS_ARROW_WITH_TIP_LEFTWARDS UPWARDS_ARROW_WITH_TIP_RIGHTWARDS
   DOWNWARDS_ARROW_WITH_TIP_LEFTWARDS DOWNWARDS_ARROW_WITH_TIP_RIGHTWARDS
   RIGHTWARDS_ARROW_WITH_CORNER_DOWNWARDS DOWNWARDS_ARROW_WITH_CORNER_LEFTWARDS
   ANTICLOCKWISE_TOP_SEMICIRCLE_ARROW CLOCKWISE_TOP_SEMICIRCLE_ARROW NORTH_WEST_ARROW_TO_LONG_BAR
   LEFTWARDS_ARROW_TO_BAR_OVER_RIGHTWARDS_ARROW_TO_BAR ANTICLOCKWISE_OPEN_CIRCLE_ARROW
   CLOCKWISE_OPEN_CIRCLE_ARROW LEFTWARDS_HARPOON_WITH_BARB_UPWARDS LEFTWARDS_HARPOON_WITH_BARB_DOWNWARDS
   UPWARDS_HARPOON_WITH_BARB_RIGHTWARDS UPWARDS_HARPOON_WITH_BARB_LEFTWARDS
   RIGHTWARDS_HARPOON_WITH_BARB_UPWARDS RIGHTWARDS_HARPOON_WITH_BARB_DOWNWARDS
   DOWNWARDS_HARPOON_WITH_BARB_RIGHTWARDS DOWNWARDS_HARPOON_WITH_BARB_LEFTWARDS
   RIGHTWARDS_ARROW_OVER_LEFTWARDS_ARROW UPWARDS_ARROW_LEFTWARDS_OF_DOWNWARDS_ARROW
   LEFTWARDS_ARROW_OVER_RIGHTWARDS_ARROW LEFTWARDS_PAIRED_ARROWS UPWARDS_PAIRED_ARROWS
   RIGHTWARDS_PAIRED_ARROWS DOWNWARDS_PAIRED_ARROWS LEFTWARDS_HARPOON_OVER_RIGHTWARDS_HARPOON
   RIGHTWARDS_HARPOON_OVER_LEFTWARDS_HARPOON LEFTWARDS_DOUBLE_ARROW_WITH_STROKE
   LEFT_RIGHT_DOUBLE_ARROW_WITH_STROKE RIGHTWARDS_DOUBLE_ARROW_WITH_STROKE LEFTWARDS_DOUBLE_ARROW
   UPWARDS_DOUBLE_ARROW RIGHTWARDS_DOUBLE_ARROW DOWNWARDS_DOUBLE_ARROW LEFT_RIGHT_DOUBLE_ARROW
   UP_DOWN_DOUBLE_ARROW NORTH_WEST_DOUBLE_ARROW NORTH_EAST_DOUBLE_ARROW SOUTH_EAST_DOUBLE_ARROW
   SOUTH_WEST_DOUBLE_ARROW LEFTWARDS_TRIPLE_ARROW RIGHTWARDS_TRIPLE_ARROW LEFTWARDS_SQUIGGLE_ARROW
   RIGHTWARDS_SQUIGGLE_ARROW UPWARDS_ARROW_WITH_DOUBLE_STROKE DOWNWARDS_ARROW_WITH_DOUBLE_STROKE
   LEFTWARDS_DASHED_ARROW UPWARDS_DASHED_ARROW RIGHTWARDS_DASHED_ARROW DOWNWARDS_DASHED_ARROW
   LEFTWARDS_ARROW_TO_BAR RIGHTWARDS_ARROW_TO_BAR LEFTWARDS_WHITE_ARROW UPWARDS_WHITE_ARROW
   RIGHTWARDS_WHITE_ARROW DOWNWARDS_WHITE_ARROW UPWARDS_WHITE_ARROW_FROM_BAR UPWARDS_WHITE_ARROW_ON_PEDESTAL
   UPWARDS_WHITE_ARROW_ON_PEDESTAL_WITH_HORIZONTAL_BAR UPWARDS_WHITE_ARROW_ON_PEDESTAL_WITH_VERTICAL_BAR
   UPWARDS_WHITE_DOUBLE_ARROW UPWARDS_WHITE_DOUBLE_ARROW_ON_PEDESTAL RIGHTWARDS_WHITE_ARROW_FROM_WALL
   NORTH_WEST_ARROW_TO_CORNER SOUTH_EAST_ARROW_TO_CORNER UP_DOWN_WHITE_ARROW RIGHT_ARROW_WITH_SMALL_CIRCLE
   DOWNWARDS_ARROW_LEFTWARDS_OF_UPWARDS_ARROW THREE_RIGHTWARDS_ARROWS LEFTWARDS_ARROW_WITH_VERTICAL_STROKE
   RIGHTWARDS_ARROW_WITH_VERTICAL_STROKE LEFT_RIGHT_ARROW_WITH_VERTICAL_STROKE
   LEFTWARDS_ARROW_WITH_DOUBLE_VERTICAL_STROKE RIGHTWARDS_ARROW_WITH_DOUBLE_VERTICAL_STROKE
   LEFT_RIGHT_ARROW_WITH_DOUBLE_VERTICAL_STROKE LEFTWARDS_OPEN-HEADED_ARROW RIGHTWARDS_OPEN-HEADED_ARROW
   LEFT_RIGHT_OPEN-HEADED_ARROW FOR_ALL COMPLEMENT PARTIAL_DIFFERENTIAL THERE_EXISTS THERE_DOES_NOT_EXIST
   EMPTY_SET INCREMENT NABLA ELEMENT_OF NOT_AN_ELEMENT_OF SMALL_ELEMENT_OF CONTAINS_AS_MEMBER
   DOES_NOT_CONTAIN_AS_MEMBER SMALL_CONTAINS_AS_MEMBER END_OF_PROOF N-ARY_PRODUCT N-ARY_COPRODUCT
   N-ARY_SUMMATION MINUS_SIGN MINUS-OR-PLUS_SIGN DOT_PLUS DIVISION_SLASH SET_MINUS ASTERISK_OPERATOR
   RING_OPERATOR BULLET_OPERATOR SQUARE_ROOT CUBE_ROOT FOURTH_ROOT PROPORTIONAL_TO INFINITY RIGHT_ANGLE ANGLE
   MEASURED_ANGLE SPHERICAL_ANGLE DIVIDES DOES_NOT_DIVIDE PARALLEL_TO NOT_PARALLEL_TO LOGICAL_AND LOGICAL_OR
   INTERSECTION UNION INTEGRAL DOUBLE_INTEGRAL TRIPLE_INTEGRAL CONTOUR_INTEGRAL SURFACE_INTEGRAL
   VOLUME_INTEGRAL CLOCKWISE_INTEGRAL CLOCKWISE_CONTOUR_INTEGRAL ANTICLOCKWISE_CONTOUR_INTEGRAL THEREFORE
   BECAUSE RATIO PROPORTION DOT_MINUS EXCESS GEOMETRIC_PROPORTION HOMOTHETIC TILDE_OPERATOR REVERSED_TILDE
   INVERTED_LAZY_S SINE_WAVE WREATH_PRODUCT NOT_TILDE MINUS_TILDE ASYMPTOTICALLY_EQUAL_TO
   NOT_ASYMPTOTICALLY_EQUAL_TO APPROXIMATELY_EQUAL_TO APPROXIMATELY_BUT_NOT_ACTUALLY_EQUAL_TO
   NEITHER_APPROXIMATELY_NOR_ACTUALLY_EQUAL_TO ALMOST_EQUAL_TO NOT_ALMOST_EQUAL_TO ALMOST_EQUAL_OR_EQUAL_TO
   TRIPLE_TILDE ALL_EQUAL_TO EQUIVALENT_TO GEOMETRICALLY_EQUIVALENT_TO DIFFERENCE_BETWEEN
   APPROACHES_THE_LIMIT GEOMETRICALLY_EQUAL_TO APPROXIMATELY_EQUAL_TO_OR_THE_IMAGE_OF
   IMAGE_OF_OR_APPROXIMATELY_EQUAL_TO COLON_EQUALS EQUALS_COLON RING_IN_EQUAL_TO RING_EQUAL_TO CORRESPONDS_TO
   ESTIMATES EQUIANGULAR_TO STAR_EQUALS DELTA_EQUAL_TO EQUAL_TO_BY_DEFINITION MEASURED_BY QUESTIONED_EQUAL_TO
   NOT_EQUAL_TO IDENTICAL_TO NOT_IDENTICAL_TO STRICTLY_EQUIVALENT_TO LESS-THAN_OR_EQUAL_TO
   GREATER-THAN_OR_EQUAL_TO LESS-THAN_OVER_EQUAL_TO GREATER-THAN_OVER_EQUAL_TO LESS-THAN_BUT_NOT_EQUAL_TO
   GREATER-THAN_BUT_NOT_EQUAL_TO MUCH_LESS-THAN MUCH_GREATER-THAN BETWEEN NOT_EQUIVALENT_TO NOT_LESS-THAN
   NOT_GREATER-THAN NEITHER_LESS-THAN_NOR_EQUAL_TO NEITHER_GREATER-THAN_NOR_EQUAL_TO
   LESS-THAN_OR_EQUIVALENT_TO GREATER-THAN_OR_EQUIVALENT_TO NEITHER_LESS-THAN_NOR_EQUIVALENT_TO
   NEITHER_GREATER-THAN_NOR_EQUIVALENT_TO LESS-THAN_OR_GREATER-THAN GREATER-THAN_OR_LESS-THAN
   NEITHER_LESS-THAN_NOR_GREATER-THAN NEITHER_GREATER-THAN_NOR_LESS-THAN PRECEDES SUCCEEDS
   PRECEDES_OR_EQUAL_TO SUCCEEDS_OR_EQUAL_TO PRECEDES_OR_EQUIVALENT_TO SUCCEEDS_OR_EQUIVALENT_TO
   DOES_NOT_PRECEDE DOES_NOT_SUCCEED SUBSET_OF SUPERSET_OF NOT_A_SUBSET_OF NOT_A_SUPERSET_OF
   SUBSET_OF_OR_EQUAL_TO SUPERSET_OF_OR_EQUAL_TO NEITHER_A_SUBSET_OF_NOR_EQUAL_TO
   NEITHER_A_SUPERSET_OF_NOR_EQUAL_TO SUBSET_OF_WITH_NOT_EQUAL_TO SUPERSET_OF_WITH_NOT_EQUAL_TO MULTISET
   MULTISET_MULTIPLICATION MULTISET_UNION SQUARE_IMAGE_OF SQUARE_ORIGINAL_OF SQUARE_IMAGE_OF_OR_EQUAL_TO
   SQUARE_ORIGINAL_OF_OR_EQUAL_TO SQUARE_CAP SQUARE_CUP CIRCLED_PLUS CIRCLED_MINUS CIRCLED_TIMES
   CIRCLED_DIVISION_SLASH CIRCLED_DOT_OPERATOR CIRCLED_RING_OPERATOR CIRCLED_ASTERISK_OPERATOR CIRCLED_EQUALS
   CIRCLED_DASH SQUARED_PLUS SQUARED_MINUS SQUARED_TIMES SQUARED_DOT_OPERATOR RIGHT_TACK LEFT_TACK DOWN_TACK
   UP_TACK ASSERTION MODELS TRUE FORCES TRIPLE_VERTICAL_BAR_RIGHT_TURNSTILE
   DOUBLE_VERTICAL_BAR_DOUBLE_RIGHT_TURNSTILE DOES_NOT_PROVE NOT_TRUE DOES_NOT_FORCE
   NEGATED_DOUBLE_VERTICAL_BAR_DOUBLE_RIGHT_TURNSTILE PRECEDES_UNDER_RELATION SUCCEEDS_UNDER_RELATION
   NORMAL_SUBGROUP_OF CONTAINS_AS_NORMAL_SUBGROUP NORMAL_SUBGROUP_OF_OR_EQUAL_TO
   CONTAINS_AS_NORMAL_SUBGROUP_OR_EQUAL_TO ORIGINAL_OF IMAGE_OF MULTIMAP HERMITIAN_CONJUGATE_MATRIX
   INTERCALATE XOR NAND NOR RIGHT_ANGLE_WITH_ARC RIGHT_TRIANGLE N-ARY_LOGICAL_AND N-ARY_LOGICAL_OR
   N-ARY_INTERSECTION N-ARY_UNION DIAMOND_OPERATOR DOT_OPERATOR STAR_OPERATOR DIVISION_TIMES BOWTIE
   LEFT_NORMAL_FACTOR_SEMIDIRECT_PRODUCT RIGHT_NORMAL_FACTOR_SEMIDIRECT_PRODUCT LEFT_SEMIDIRECT_PRODUCT
   RIGHT_SEMIDIRECT_PRODUCT REVERSED_TILDE_EQUALS CURLY_LOGICAL_OR CURLY_LOGICAL_AND DOUBLE_SUBSET
   DOUBLE_SUPERSET DOUBLE_INTERSECTION DOUBLE_UNION PITCHFORK EQUAL_AND_PARALLEL_TO LESS-THAN_WITH_DOT
   GREATER-THAN_WITH_DOT VERY_MUCH_LESS-THAN VERY_MUCH_GREATER-THAN LESS-THAN_EQUAL_TO_OR_GREATER-THAN
   GREATER-THAN_EQUAL_TO_OR_LESS-THAN EQUAL_TO_OR_LESS-THAN EQUAL_TO_OR_GREATER-THAN EQUAL_TO_OR_PRECEDES
   EQUAL_TO_OR_SUCCEEDS DOES_NOT_PRECEDE_OR_EQUAL DOES_NOT_SUCCEED_OR_EQUAL NOT_SQUARE_IMAGE_OF_OR_EQUAL_TO
   NOT_SQUARE_ORIGINAL_OF_OR_EQUAL_TO SQUARE_IMAGE_OF_OR_NOT_EQUAL_TO SQUARE_ORIGINAL_OF_OR_NOT_EQUAL_TO
   LESS-THAN_BUT_NOT_EQUIVALENT_TO GREATER-THAN_BUT_NOT_EQUIVALENT_TO PRECEDES_BUT_NOT_EQUIVALENT_TO
   SUCCEEDS_BUT_NOT_EQUIVALENT_TO NOT_NORMAL_SUBGROUP_OF DOES_NOT_CONTAIN_AS_NORMAL_SUBGROUP
   NOT_NORMAL_SUBGROUP_OF_OR_EQUAL_TO DOES_NOT_CONTAIN_AS_NORMAL_SUBGROUP_OR_EQUAL VERTICAL_ELLIPSIS
   MIDLINE_HORIZONTAL_ELLIPSIS UP_RIGHT_DIAGONAL_ELLIPSIS DOWN_RIGHT_DIAGONAL_ELLIPSIS
   ELEMENT_OF_WITH_LONG_HORIZONTAL_STROKE ELEMENT_OF_WITH_VERTICAL_BAR_AT_END_OF_HORIZONTAL_STROKE
   SMALL_ELEMENT_OF_WITH_VERTICAL_BAR_AT_END_OF_HORIZONTAL_STROKE ELEMENT_OF_WITH_DOT_ABOVE
   ELEMENT_OF_WITH_OVERBAR SMALL_ELEMENT_OF_WITH_OVERBAR ELEMENT_OF_WITH_UNDERBAR
   ELEMENT_OF_WITH_TWO_HORIZONTAL_STROKES CONTAINS_WITH_LONG_HORIZONTAL_STROKE
   CONTAINS_WITH_VERTICAL_BAR_AT_END_OF_HORIZONTAL_STROKE
   SMALL_CONTAINS_WITH_VERTICAL_BAR_AT_END_OF_HORIZONTAL_STROKE CONTAINS_WITH_OVERBAR
   SMALL_CONTAINS_WITH_OVERBAR Z_NOTATION_BAG_MEMBERSHIP DIAMETER_SIGN ELECTRIC_ARROW HOUSE UP_ARROWHEAD
   DOWN_ARROWHEAD PROJECTIVE PERSPECTIVE WAVY_LINE LEFT_CEILING RIGHT_CEILING LEFT_FLOOR RIGHT_FLOOR
   BOTTOM_RIGHT_CROP BOTTOM_LEFT_CROP TOP_RIGHT_CROP TOP_LEFT_CROP REVERSED_NOT_SIGN SQUARE_LOZENGE ARC
   SEGMENT SECTOR TELEPHONE_RECORDER POSITION_INDICATOR VIEWDATA_SQUARE PLACE_OF_INTEREST_SIGN
   TURNED_NOT_SIGN WATCH HOURGLASS TOP_LEFT_CORNER TOP_RIGHT_CORNER BOTTOM_LEFT_CORNER BOTTOM_RIGHT_CORNER
   TOP_HALF_INTEGRAL BOTTOM_HALF_INTEGRAL FROWN SMILE UP_ARROWHEAD_BETWEEN_TWO_HORIZONTAL_BARS OPTION_KEY
   ERASE_TO_THE_RIGHT X_IN_A_RECTANGLE_BOX KEYBOARD LEFT-POINTING_ANGLE_BRACKET RIGHT-POINTING_ANGLE_BRACKET
   ERASE_TO_THE_LEFT BENZENE_RING CYLINDRICITY ALL_AROUND-PROFILE SYMMETRY TOTAL_RUNOUT DIMENSION_ORIGIN
   CONICAL_TAPER SLOPE COUNTERBORE COUNTERSINK APL_FUNCTIONAL_SYMBOL_I-BEAM APL_FUNCTIONAL_SYMBOL_SQUISH_QUAD
   APL_FUNCTIONAL_SYMBOL_QUAD_EQUAL APL_FUNCTIONAL_SYMBOL_QUAD_DIVIDE APL_FUNCTIONAL_SYMBOL_QUAD_DIAMOND
   APL_FUNCTIONAL_SYMBOL_QUAD_JOT APL_FUNCTIONAL_SYMBOL_QUAD_CIRCLE APL_FUNCTIONAL_SYMBOL_CIRCLE_STILE
   APL_FUNCTIONAL_SYMBOL_CIRCLE_JOT APL_FUNCTIONAL_SYMBOL_SLASH_BAR APL_FUNCTIONAL_SYMBOL_BACKSLASH_BAR
   APL_FUNCTIONAL_SYMBOL_QUAD_SLASH APL_FUNCTIONAL_SYMBOL_QUAD_BACKSLASH APL_FUNCTIONAL_SYMBOL_QUAD_LESS-THAN
   APL_FUNCTIONAL_SYMBOL_QUAD_GREATER-THAN APL_FUNCTIONAL_SYMBOL_LEFTWARDS_VANE
   APL_FUNCTIONAL_SYMBOL_RIGHTWARDS_VANE APL_FUNCTIONAL_SYMBOL_QUAD_LEFTWARDS_ARROW
   APL_FUNCTIONAL_SYMBOL_QUAD_RIGHTWARDS_ARROW APL_FUNCTIONAL_SYMBOL_CIRCLE_BACKSLASH
   APL_FUNCTIONAL_SYMBOL_DOWN_TACK_UNDERBAR APL_FUNCTIONAL_SYMBOL_DELTA_STILE
   APL_FUNCTIONAL_SYMBOL_QUAD_DOWN_CARET APL_FUNCTIONAL_SYMBOL_QUAD_DELTA APL_FUNCTIONAL_SYMBOL_DOWN_TACK_JOT
   APL_FUNCTIONAL_SYMBOL_UPWARDS_VANE APL_FUNCTIONAL_SYMBOL_QUAD_UPWARDS_ARROW
   APL_FUNCTIONAL_SYMBOL_UP_TACK_OVERBAR APL_FUNCTIONAL_SYMBOL_DEL_STILE APL_FUNCTIONAL_SYMBOL_QUAD_UP_CARET
   APL_FUNCTIONAL_SYMBOL_QUAD_DEL APL_FUNCTIONAL_SYMBOL_UP_TACK_JOT APL_FUNCTIONAL_SYMBOL_DOWNWARDS_VANE
   APL_FUNCTIONAL_SYMBOL_QUAD_DOWNWARDS_ARROW APL_FUNCTIONAL_SYMBOL_QUOTE_UNDERBAR
   APL_FUNCTIONAL_SYMBOL_DELTA_UNDERBAR APL_FUNCTIONAL_SYMBOL_DIAMOND_UNDERBAR
   APL_FUNCTIONAL_SYMBOL_JOT_UNDERBAR APL_FUNCTIONAL_SYMBOL_CIRCLE_UNDERBAR APL_FUNCTIONAL_SYMBOL_UP_SHOE_JOT
   APL_FUNCTIONAL_SYMBOL_QUOTE_QUAD APL_FUNCTIONAL_SYMBOL_CIRCLE_STAR APL_FUNCTIONAL_SYMBOL_QUAD_COLON
   APL_FUNCTIONAL_SYMBOL_UP_TACK_DIAERESIS APL_FUNCTIONAL_SYMBOL_DEL_DIAERESIS
   APL_FUNCTIONAL_SYMBOL_STAR_DIAERESIS APL_FUNCTIONAL_SYMBOL_JOT_DIAERESIS
   APL_FUNCTIONAL_SYMBOL_CIRCLE_DIAERESIS APL_FUNCTIONAL_SYMBOL_DOWN_SHOE_STILE
   APL_FUNCTIONAL_SYMBOL_LEFT_SHOE_STILE APL_FUNCTIONAL_SYMBOL_TILDE_DIAERESIS
   APL_FUNCTIONAL_SYMBOL_GREATER-THAN_DIAERESIS APL_FUNCTIONAL_SYMBOL_COMMA_BAR
   APL_FUNCTIONAL_SYMBOL_DEL_TILDE APL_FUNCTIONAL_SYMBOL_ZILDE APL_FUNCTIONAL_SYMBOL_STILE_TILDE
   APL_FUNCTIONAL_SYMBOL_SEMICOLON_UNDERBAR APL_FUNCTIONAL_SYMBOL_QUAD_NOT_EQUAL
   APL_FUNCTIONAL_SYMBOL_QUAD_QUESTION APL_FUNCTIONAL_SYMBOL_DOWN_CARET_TILDE
   APL_FUNCTIONAL_SYMBOL_UP_CARET_TILDE APL_FUNCTIONAL_SYMBOL_IOTA APL_FUNCTIONAL_SYMBOL_RHO
   APL_FUNCTIONAL_SYMBOL_OMEGA APL_FUNCTIONAL_SYMBOL_ALPHA_UNDERBAR APL_FUNCTIONAL_SYMBOL_EPSILON_UNDERBAR
   APL_FUNCTIONAL_SYMBOL_IOTA_UNDERBAR APL_FUNCTIONAL_SYMBOL_OMEGA_UNDERBAR APL_FUNCTIONAL_SYMBOL_ALPHA
   NOT_CHECK_MARK RIGHT_ANGLE_WITH_DOWNWARDS_ZIGZAG_ARROW SHOULDERED_OPEN_BOX BELL_SYMBOL
   VERTICAL_LINE_WITH_MIDDLE_DOT INSERTION_SYMBOL CONTINUOUS_UNDERLINE_SYMBOL DISCONTINUOUS_UNDERLINE_SYMBOL
   EMPHASIS_SYMBOL COMPOSITION_SYMBOL WHITE_SQUARE_WITH_CENTRE_VERTICAL_LINE ENTER_SYMBOL
   ALTERNATIVE_KEY_SYMBOL HELM_SYMBOL CIRCLED_HORIZONTAL_BAR_WITH_NOTCH CIRCLED_TRIANGLE_DOWN
   BROKEN_CIRCLE_WITH_NORTHWEST_ARROW UNDO_SYMBOL MONOSTABLE_SYMBOL HYSTERESIS_SYMBOL
   OPEN-CIRCUIT-OUTPUT_H-TYPE_SYMBOL OPEN-CIRCUIT-OUTPUT_L-TYPE_SYMBOL PASSIVE-PULL-DOWN-OUTPUT_SYMBOL
   PASSIVE-PULL-UP-OUTPUT_SYMBOL DIRECT_CURRENT_SYMBOL_FORM_TWO SOFTWARE-FUNCTION_SYMBOL
   APL_FUNCTIONAL_SYMBOL_QUAD DECIMAL_SEPARATOR_KEY_SYMBOL PREVIOUS_PAGE NEXT_PAGE PRINT_SCREEN_SYMBOL
   CLEAR_SCREEN_SYMBOL LEFT_PARENTHESIS_UPPER_HOOK LEFT_PARENTHESIS_EXTENSION LEFT_PARENTHESIS_LOWER_HOOK
   RIGHT_PARENTHESIS_UPPER_HOOK RIGHT_PARENTHESIS_EXTENSION RIGHT_PARENTHESIS_LOWER_HOOK
   LEFT_SQUARE_BRACKET_UPPER_CORNER LEFT_SQUARE_BRACKET_EXTENSION LEFT_SQUARE_BRACKET_LOWER_CORNER
   RIGHT_SQUARE_BRACKET_UPPER_CORNER RIGHT_SQUARE_BRACKET_EXTENSION RIGHT_SQUARE_BRACKET_LOWER_CORNER
   LEFT_CURLY_BRACKET_UPPER_HOOK LEFT_CURLY_BRACKET_MIDDLE_PIECE LEFT_CURLY_BRACKET_LOWER_HOOK
   CURLY_BRACKET_EXTENSION RIGHT_CURLY_BRACKET_UPPER_HOOK RIGHT_CURLY_BRACKET_MIDDLE_PIECE
   RIGHT_CURLY_BRACKET_LOWER_HOOK INTEGRAL_EXTENSION HORIZONTAL_LINE_EXTENSION
   UPPER_LEFT_OR_LOWER_RIGHT_CURLY_BRACKET_SECTION UPPER_RIGHT_OR_LOWER_LEFT_CURLY_BRACKET_SECTION
   SUMMATION_TOP SUMMATION_BOTTOM TOP_SQUARE_BRACKET BOTTOM_SQUARE_BRACKET
   BOTTOM_SQUARE_BRACKET_OVER_TOP_SQUARE_BRACKET RADICAL_SYMBOL_BOTTOM LEFT_VERTICAL_BOX_LINE
   RIGHT_VERTICAL_BOX_LINE HORIZONTAL_SCAN_LINE-1 HORIZONTAL_SCAN_LINE-3 HORIZONTAL_SCAN_LINE-7
   HORIZONTAL_SCAN_LINE-9 DENTISTRY_SYMBOL_LIGHT_VERTICAL_AND_TOP_RIGHT
   DENTISTRY_SYMBOL_LIGHT_VERTICAL_AND_BOTTOM_RIGHT DENTISTRY_SYMBOL_LIGHT_VERTICAL_WITH_CIRCLE
   DENTISTRY_SYMBOL_LIGHT_DOWN_AND_HORIZONTAL_WITH_CIRCLE
   DENTISTRY_SYMBOL_LIGHT_UP_AND_HORIZONTAL_WITH_CIRCLE DENTISTRY_SYMBOL_LIGHT_VERTICAL_WITH_TRIANGLE
   DENTISTRY_SYMBOL_LIGHT_DOWN_AND_HORIZONTAL_WITH_TRIANGLE
   DENTISTRY_SYMBOL_LIGHT_UP_AND_HORIZONTAL_WITH_TRIANGLE DENTISTRY_SYMBOL_LIGHT_VERTICAL_AND_WAVE
   DENTISTRY_SYMBOL_LIGHT_DOWN_AND_HORIZONTAL_WITH_WAVE DENTISTRY_SYMBOL_LIGHT_UP_AND_HORIZONTAL_WITH_WAVE
   DENTISTRY_SYMBOL_LIGHT_DOWN_AND_HORIZONTAL DENTISTRY_SYMBOL_LIGHT_UP_AND_HORIZONTAL
   DENTISTRY_SYMBOL_LIGHT_VERTICAL_AND_TOP_LEFT DENTISTRY_SYMBOL_LIGHT_VERTICAL_AND_BOTTOM_LEFT SQUARE_FOOT
   RETURN_SYMBOL EJECT_SYMBOL VERTICAL_LINE_EXTENSION METRICAL_BREVE METRICAL_LONG_OVER_SHORT
   METRICAL_SHORT_OVER_LONG METRICAL_LONG_OVER_TWO_SHORTS METRICAL_TWO_SHORTS_OVER_LONG
   METRICAL_TWO_SHORTS_JOINED METRICAL_TRISEME METRICAL_TETRASEME METRICAL_PENTASEME EARTH_GROUND FUSE
   TOP_PARENTHESIS BOTTOM_PARENTHESIS TOP_CURLY_BRACKET BOTTOM_CURLY_BRACKET TOP_TORTOISE_SHELL_BRACKET
   BOTTOM_TORTOISE_SHELL_BRACKET WHITE_TRAPEZIUM BENZENE_RING_WITH_CIRCLE STRAIGHTNESS FLATNESS AC_CURRENT
   ELECTRICAL_INTERSECTION DECIMAL_EXPONENT_SYMBOL BLACK_RIGHT-POINTING_DOUBLE_TRIANGLE
   BLACK_LEFT-POINTING_DOUBLE_TRIANGLE BLACK_UP-POINTING_DOUBLE_TRIANGLE BLACK_DOWN-POINTING_DOUBLE_TRIANGLE
   BLACK_RIGHT-POINTING_DOUBLE_TRIANGLE_WITH_VERTICAL_BAR
   BLACK_LEFT-POINTING_DOUBLE_TRIANGLE_WITH_VERTICAL_BAR
   BLACK_RIGHT-POINTING_TRIANGLE_WITH_DOUBLE_VERTICAL_BAR ALARM_CLOCK STOPWATCH TIMER_CLOCK
   HOURGLASS_WITH_FLOWING_SAND BLACK_MEDIUM_LEFT-POINTING_TRIANGLE BLACK_MEDIUM_RIGHT-POINTING_TRIANGLE
   BLACK_MEDIUM_UP-POINTING_TRIANGLE BLACK_MEDIUM_DOWN-POINTING_TRIANGLE DOUBLE_VERTICAL_BAR
   BLACK_SQUARE_FOR_STOP BLACK_CIRCLE_FOR_RECORD POWER_SYMBOL POWER_ON-OFF_SYMBOL POWER_ON_SYMBOL
   POWER_SLEEP_SYMBOL OBSERVER_EYE_SYMBOL 2500:BOX_DRAWINGS_LIGHT_HORIZONTAL BOX_DRAWINGS_HEAVY_HORIZONTAL
   BOX_DRAWINGS_LIGHT_VERTICAL BOX_DRAWINGS_HEAVY_VERTICAL BOX_DRAWINGS_LIGHT_TRIPLE_DASH_HORIZONTAL
   BOX_DRAWINGS_HEAVY_TRIPLE_DASH_HORIZONTAL BOX_DRAWINGS_LIGHT_TRIPLE_DASH_VERTICAL
   BOX_DRAWINGS_HEAVY_TRIPLE_DASH_VERTICAL BOX_DRAWINGS_LIGHT_QUADRUPLE_DASH_HORIZONTAL
   BOX_DRAWINGS_HEAVY_QUADRUPLE_DASH_HORIZONTAL BOX_DRAWINGS_LIGHT_QUADRUPLE_DASH_VERTICAL
   BOX_DRAWINGS_HEAVY_QUADRUPLE_DASH_VERTICAL BOX_DRAWINGS_LIGHT_DOWN_AND_RIGHT
   BOX_DRAWINGS_DOWN_LIGHT_AND_RIGHT_HEAVY BOX_DRAWINGS_DOWN_HEAVY_AND_RIGHT_LIGHT
   BOX_DRAWINGS_HEAVY_DOWN_AND_RIGHT BOX_DRAWINGS_LIGHT_DOWN_AND_LEFT BOX_DRAWINGS_DOWN_LIGHT_AND_LEFT_HEAVY
   BOX_DRAWINGS_DOWN_HEAVY_AND_LEFT_LIGHT BOX_DRAWINGS_HEAVY_DOWN_AND_LEFT BOX_DRAWINGS_LIGHT_UP_AND_RIGHT
   BOX_DRAWINGS_UP_LIGHT_AND_RIGHT_HEAVY BOX_DRAWINGS_UP_HEAVY_AND_RIGHT_LIGHT
   BOX_DRAWINGS_HEAVY_UP_AND_RIGHT BOX_DRAWINGS_LIGHT_UP_AND_LEFT BOX_DRAWINGS_UP_LIGHT_AND_LEFT_HEAVY
   BOX_DRAWINGS_UP_HEAVY_AND_LEFT_LIGHT BOX_DRAWINGS_HEAVY_UP_AND_LEFT BOX_DRAWINGS_LIGHT_VERTICAL_AND_RIGHT
   BOX_DRAWINGS_VERTICAL_LIGHT_AND_RIGHT_HEAVY BOX_DRAWINGS_UP_HEAVY_AND_RIGHT_DOWN_LIGHT
   BOX_DRAWINGS_DOWN_HEAVY_AND_RIGHT_UP_LIGHT BOX_DRAWINGS_VERTICAL_HEAVY_AND_RIGHT_LIGHT
   BOX_DRAWINGS_DOWN_LIGHT_AND_RIGHT_UP_HEAVY BOX_DRAWINGS_UP_LIGHT_AND_RIGHT_DOWN_HEAVY
   BOX_DRAWINGS_HEAVY_VERTICAL_AND_RIGHT BOX_DRAWINGS_LIGHT_VERTICAL_AND_LEFT
   BOX_DRAWINGS_VERTICAL_LIGHT_AND_LEFT_HEAVY BOX_DRAWINGS_UP_HEAVY_AND_LEFT_DOWN_LIGHT
   BOX_DRAWINGS_DOWN_HEAVY_AND_LEFT_UP_LIGHT BOX_DRAWINGS_VERTICAL_HEAVY_AND_LEFT_LIGHT
   BOX_DRAWINGS_DOWN_LIGHT_AND_LEFT_UP_HEAVY BOX_DRAWINGS_UP_LIGHT_AND_LEFT_DOWN_HEAVY
   BOX_DRAWINGS_HEAVY_VERTICAL_AND_LEFT BOX_DRAWINGS_LIGHT_DOWN_AND_HORIZONTAL
   BOX_DRAWINGS_LEFT_HEAVY_AND_RIGHT_DOWN_LIGHT BOX_DRAWINGS_RIGHT_HEAVY_AND_LEFT_DOWN_LIGHT
   BOX_DRAWINGS_DOWN_LIGHT_AND_HORIZONTAL_HEAVY BOX_DRAWINGS_DOWN_HEAVY_AND_HORIZONTAL_LIGHT
   BOX_DRAWINGS_RIGHT_LIGHT_AND_LEFT_DOWN_HEAVY BOX_DRAWINGS_LEFT_LIGHT_AND_RIGHT_DOWN_HEAVY
   BOX_DRAWINGS_HEAVY_DOWN_AND_HORIZONTAL BOX_DRAWINGS_LIGHT_UP_AND_HORIZONTAL
   BOX_DRAWINGS_LEFT_HEAVY_AND_RIGHT_UP_LIGHT BOX_DRAWINGS_RIGHT_HEAVY_AND_LEFT_UP_LIGHT
   BOX_DRAWINGS_UP_LIGHT_AND_HORIZONTAL_HEAVY BOX_DRAWINGS_UP_HEAVY_AND_HORIZONTAL_LIGHT
   BOX_DRAWINGS_RIGHT_LIGHT_AND_LEFT_UP_HEAVY BOX_DRAWINGS_LEFT_LIGHT_AND_RIGHT_UP_HEAVY
   BOX_DRAWINGS_HEAVY_UP_AND_HORIZONTAL BOX_DRAWINGS_LIGHT_VERTICAL_AND_HORIZONTAL
   BOX_DRAWINGS_LEFT_HEAVY_AND_RIGHT_VERTICAL_LIGHT BOX_DRAWINGS_RIGHT_HEAVY_AND_LEFT_VERTICAL_LIGHT
   BOX_DRAWINGS_VERTICAL_LIGHT_AND_HORIZONTAL_HEAVY BOX_DRAWINGS_UP_HEAVY_AND_DOWN_HORIZONTAL_LIGHT
   BOX_DRAWINGS_DOWN_HEAVY_AND_UP_HORIZONTAL_LIGHT BOX_DRAWINGS_VERTICAL_HEAVY_AND_HORIZONTAL_LIGHT
   BOX_DRAWINGS_LEFT_UP_HEAVY_AND_RIGHT_DOWN_LIGHT BOX_DRAWINGS_RIGHT_UP_HEAVY_AND_LEFT_DOWN_LIGHT
   BOX_DRAWINGS_LEFT_DOWN_HEAVY_AND_RIGHT_UP_LIGHT BOX_DRAWINGS_RIGHT_DOWN_HEAVY_AND_LEFT_UP_LIGHT
   BOX_DRAWINGS_DOWN_LIGHT_AND_UP_HORIZONTAL_HEAVY BOX_DRAWINGS_UP_LIGHT_AND_DOWN_HORIZONTAL_HEAVY
   BOX_DRAWINGS_RIGHT_LIGHT_AND_LEFT_VERTICAL_HEAVY BOX_DRAWINGS_LEFT_LIGHT_AND_RIGHT_VERTICAL_HEAVY
   BOX_DRAWINGS_HEAVY_VERTICAL_AND_HORIZONTAL BOX_DRAWINGS_LIGHT_DOUBLE_DASH_HORIZONTAL
   BOX_DRAWINGS_HEAVY_DOUBLE_DASH_HORIZONTAL BOX_DRAWINGS_LIGHT_DOUBLE_DASH_VERTICAL
   BOX_DRAWINGS_HEAVY_DOUBLE_DASH_VERTICAL BOX_DRAWINGS_DOUBLE_HORIZONTAL BOX_DRAWINGS_DOUBLE_VERTICAL
   BOX_DRAWINGS_DOWN_SINGLE_AND_RIGHT_DOUBLE BOX_DRAWINGS_DOWN_DOUBLE_AND_RIGHT_SINGLE
   BOX_DRAWINGS_DOUBLE_DOWN_AND_RIGHT BOX_DRAWINGS_DOWN_SINGLE_AND_LEFT_DOUBLE
   BOX_DRAWINGS_DOWN_DOUBLE_AND_LEFT_SINGLE BOX_DRAWINGS_DOUBLE_DOWN_AND_LEFT
   BOX_DRAWINGS_UP_SINGLE_AND_RIGHT_DOUBLE BOX_DRAWINGS_UP_DOUBLE_AND_RIGHT_SINGLE
   BOX_DRAWINGS_DOUBLE_UP_AND_RIGHT BOX_DRAWINGS_UP_SINGLE_AND_LEFT_DOUBLE
   BOX_DRAWINGS_UP_DOUBLE_AND_LEFT_SINGLE BOX_DRAWINGS_DOUBLE_UP_AND_LEFT
   BOX_DRAWINGS_VERTICAL_SINGLE_AND_RIGHT_DOUBLE BOX_DRAWINGS_VERTICAL_DOUBLE_AND_RIGHT_SINGLE
   BOX_DRAWINGS_DOUBLE_VERTICAL_AND_RIGHT BOX_DRAWINGS_VERTICAL_SINGLE_AND_LEFT_DOUBLE
   BOX_DRAWINGS_VERTICAL_DOUBLE_AND_LEFT_SINGLE BOX_DRAWINGS_DOUBLE_VERTICAL_AND_LEFT
   BOX_DRAWINGS_DOWN_SINGLE_AND_HORIZONTAL_DOUBLE BOX_DRAWINGS_DOWN_DOUBLE_AND_HORIZONTAL_SINGLE
   BOX_DRAWINGS_DOUBLE_DOWN_AND_HORIZONTAL BOX_DRAWINGS_UP_SINGLE_AND_HORIZONTAL_DOUBLE
   BOX_DRAWINGS_UP_DOUBLE_AND_HORIZONTAL_SINGLE BOX_DRAWINGS_DOUBLE_UP_AND_HORIZONTAL
   BOX_DRAWINGS_VERTICAL_SINGLE_AND_HORIZONTAL_DOUBLE BOX_DRAWINGS_VERTICAL_DOUBLE_AND_HORIZONTAL_SINGLE
   BOX_DRAWINGS_DOUBLE_VERTICAL_AND_HORIZONTAL BOX_DRAWINGS_LIGHT_ARC_DOWN_AND_RIGHT
   BOX_DRAWINGS_LIGHT_ARC_DOWN_AND_LEFT BOX_DRAWINGS_LIGHT_ARC_UP_AND_LEFT
   BOX_DRAWINGS_LIGHT_ARC_UP_AND_RIGHT BOX_DRAWINGS_LIGHT_DIAGONAL_UPPER_RIGHT_TO_LOWER_LEFT
   BOX_DRAWINGS_LIGHT_DIAGONAL_UPPER_LEFT_TO_LOWER_RIGHT BOX_DRAWINGS_LIGHT_DIAGONAL_CROSS
   BOX_DRAWINGS_LIGHT_LEFT BOX_DRAWINGS_LIGHT_UP BOX_DRAWINGS_LIGHT_RIGHT BOX_DRAWINGS_LIGHT_DOWN
   BOX_DRAWINGS_HEAVY_LEFT BOX_DRAWINGS_HEAVY_UP BOX_DRAWINGS_HEAVY_RIGHT BOX_DRAWINGS_HEAVY_DOWN
   BOX_DRAWINGS_LIGHT_LEFT_AND_HEAVY_RIGHT BOX_DRAWINGS_LIGHT_UP_AND_HEAVY_DOWN
   BOX_DRAWINGS_HEAVY_LEFT_AND_LIGHT_RIGHT BOX_DRAWINGS_HEAVY_UP_AND_LIGHT_DOWN UPPER_HALF_BLOCK
   LOWER_ONE_EIGHTH_BLOCK LOWER_ONE_QUARTER_BLOCK LOWER_THREE_EIGHTHS_BLOCK LOWER_HALF_BLOCK
   LOWER_FIVE_EIGHTHS_BLOCK LOWER_THREE_QUARTERS_BLOCK LOWER_SEVEN_EIGHTHS_BLOCK FULL_BLOCK
   LEFT_SEVEN_EIGHTHS_BLOCK LEFT_THREE_QUARTERS_BLOCK LEFT_FIVE_EIGHTHS_BLOCK LEFT_HALF_BLOCK
   LEFT_THREE_EIGHTHS_BLOCK LEFT_ONE_QUARTER_BLOCK LEFT_ONE_EIGHTH_BLOCK RIGHT_HALF_BLOCK LIGHT_SHADE
   MEDIUM_SHADE DARK_SHADE UPPER_ONE_EIGHTH_BLOCK RIGHT_ONE_EIGHTH_BLOCK QUADRANT_LOWER_LEFT
   QUADRANT_LOWER_RIGHT QUADRANT_UPPER_LEFT QUADRANT_UPPER_LEFT_AND_LOWER_LEFT_AND_LOWER_RIGHT
   QUADRANT_UPPER_LEFT_AND_LOWER_RIGHT QUADRANT_UPPER_LEFT_AND_UPPER_RIGHT_AND_LOWER_LEFT
   QUADRANT_UPPER_LEFT_AND_UPPER_RIGHT_AND_LOWER_RIGHT QUADRANT_UPPER_RIGHT
   QUADRANT_UPPER_RIGHT_AND_LOWER_LEFT QUADRANT_UPPER_RIGHT_AND_LOWER_LEFT_AND_LOWER_RIGHT BLACK_SQUARE
   WHITE_SQUARE WHITE_SQUARE_WITH_ROUNDED_CORNERS WHITE_SQUARE_CONTAINING_BLACK_SMALL_SQUARE
   SQUARE_WITH_HORIZONTAL_FILL SQUARE_WITH_VERTICAL_FILL SQUARE_WITH_ORTHOGONAL_CROSSHATCH_FILL
   SQUARE_WITH_UPPER_LEFT_TO_LOWER_RIGHT_FILL SQUARE_WITH_UPPER_RIGHT_TO_LOWER_LEFT_FILL
   SQUARE_WITH_DIAGONAL_CROSSHATCH_FILL BLACK_SMALL_SQUARE WHITE_SMALL_SQUARE BLACK_RECTANGLE WHITE_RECTANGLE
   BLACK_VERTICAL_RECTANGLE WHITE_VERTICAL_RECTANGLE BLACK_PARALLELOGRAM WHITE_PARALLELOGRAM
   BLACK_UP-POINTING_TRIANGLE WHITE_UP-POINTING_TRIANGLE BLACK_UP-POINTING_SMALL_TRIANGLE
   WHITE_UP-POINTING_SMALL_TRIANGLE BLACK_RIGHT-POINTING_TRIANGLE WHITE_RIGHT-POINTING_TRIANGLE
   BLACK_RIGHT-POINTING_SMALL_TRIANGLE WHITE_RIGHT-POINTING_SMALL_TRIANGLE BLACK_RIGHT-POINTING_POINTER
   WHITE_RIGHT-POINTING_POINTER BLACK_DOWN-POINTING_TRIANGLE WHITE_DOWN-POINTING_TRIANGLE
   BLACK_DOWN-POINTING_SMALL_TRIANGLE WHITE_DOWN-POINTING_SMALL_TRIANGLE BLACK_LEFT-POINTING_TRIANGLE
   WHITE_LEFT-POINTING_TRIANGLE BLACK_LEFT-POINTING_SMALL_TRIANGLE WHITE_LEFT-POINTING_SMALL_TRIANGLE
   BLACK_LEFT-POINTING_POINTER WHITE_LEFT-POINTING_POINTER BLACK_DIAMOND WHITE_DIAMOND
   WHITE_DIAMOND_CONTAINING_BLACK_SMALL_DIAMOND FISHEYE LOZENGE WHITE_CIRCLE DOTTED_CIRCLE
   CIRCLE_WITH_VERTICAL_FILL BULLSEYE BLACK_CIRCLE CIRCLE_WITH_LEFT_HALF_BLACK CIRCLE_WITH_RIGHT_HALF_BLACK
   CIRCLE_WITH_LOWER_HALF_BLACK CIRCLE_WITH_UPPER_HALF_BLACK CIRCLE_WITH_UPPER_RIGHT_QUADRANT_BLACK
   CIRCLE_WITH_ALL_BUT_UPPER_LEFT_QUADRANT_BLACK LEFT_HALF_BLACK_CIRCLE RIGHT_HALF_BLACK_CIRCLE
   INVERSE_BULLET INVERSE_WHITE_CIRCLE UPPER_HALF_INVERSE_WHITE_CIRCLE LOWER_HALF_INVERSE_WHITE_CIRCLE
   UPPER_LEFT_QUADRANT_CIRCULAR_ARC UPPER_RIGHT_QUADRANT_CIRCULAR_ARC LOWER_RIGHT_QUADRANT_CIRCULAR_ARC
   LOWER_LEFT_QUADRANT_CIRCULAR_ARC UPPER_HALF_CIRCLE LOWER_HALF_CIRCLE BLACK_LOWER_RIGHT_TRIANGLE
   BLACK_LOWER_LEFT_TRIANGLE BLACK_UPPER_LEFT_TRIANGLE BLACK_UPPER_RIGHT_TRIANGLE WHITE_BULLET
   SQUARE_WITH_LEFT_HALF_BLACK SQUARE_WITH_RIGHT_HALF_BLACK SQUARE_WITH_UPPER_LEFT_DIAGONAL_HALF_BLACK
   SQUARE_WITH_LOWER_RIGHT_DIAGONAL_HALF_BLACK WHITE_SQUARE_WITH_VERTICAL_BISECTING_LINE
   WHITE_UP-POINTING_TRIANGLE_WITH_DOT UP-POINTING_TRIANGLE_WITH_LEFT_HALF_BLACK
   UP-POINTING_TRIANGLE_WITH_RIGHT_HALF_BLACK LARGE_CIRCLE WHITE_SQUARE_WITH_UPPER_LEFT_QUADRANT
   WHITE_SQUARE_WITH_LOWER_LEFT_QUADRANT WHITE_SQUARE_WITH_LOWER_RIGHT_QUADRANT
   WHITE_SQUARE_WITH_UPPER_RIGHT_QUADRANT WHITE_CIRCLE_WITH_UPPER_LEFT_QUADRANT
   WHITE_CIRCLE_WITH_LOWER_LEFT_QUADRANT WHITE_CIRCLE_WITH_LOWER_RIGHT_QUADRANT
   WHITE_CIRCLE_WITH_UPPER_RIGHT_QUADRANT UPPER_LEFT_TRIANGLE UPPER_RIGHT_TRIANGLE LOWER_LEFT_TRIANGLE
   WHITE_MEDIUM_SQUARE BLACK_MEDIUM_SQUARE WHITE_MEDIUM_SMALL_SQUARE BLACK_MEDIUM_SMALL_SQUARE
   LOWER_RIGHT_TRIANGLE BLACK_SUN_WITH_RAYS CLOUD UMBRELLA SNOWMAN COMET BLACK_STAR WHITE_STAR LIGHTNING
   THUNDERSTORM SUN ASCENDING_NODE DESCENDING_NODE CONJUNCTION OPPOSITION BLACK_TELEPHONE WHITE_TELEPHONE
   BALLOT_BOX BALLOT_BOX_WITH_CHECK BALLOT_BOX_WITH_X SALTIRE UMBRELLA_WITH_RAIN_DROPS HOT_BEVERAGE
   WHITE_SHOGI_PIECE BLACK_SHOGI_PIECE SHAMROCK REVERSED_ROTATED_FLORAL_HEART_BULLET
   BLACK_LEFT_POINTING_INDEX BLACK_RIGHT_POINTING_INDEX WHITE_LEFT_POINTING_INDEX WHITE_UP_POINTING_INDEX
   WHITE_RIGHT_POINTING_INDEX WHITE_DOWN_POINTING_INDEX SKULL_AND_CROSSBONES CAUTION_SIGN RADIOACTIVE_SIGN
   BIOHAZARD_SIGN CADUCEUS ANKH ORTHODOX_CROSS CHI_RHO CROSS_OF_LORRAINE CROSS_OF_JERUSALEM STAR_AND_CRESCENT
   FARSI_SYMBOL ADI_SHAKTI HAMMER_AND_SICKLE PEACE_SYMBOL YIN_YANG TRIGRAM_FOR_HEAVEN TRIGRAM_FOR_LAKE
   TRIGRAM_FOR_FIRE TRIGRAM_FOR_THUNDER TRIGRAM_FOR_WIND TRIGRAM_FOR_WATER TRIGRAM_FOR_MOUNTAIN
   TRIGRAM_FOR_EARTH WHEEL_OF_DHARMA WHITE_FROWNING_FACE WHITE_SMILING_FACE BLACK_SMILING_FACE
   WHITE_SUN_WITH_RAYS FIRST_QUARTER_MOON LAST_QUARTER_MOON MERCURY FEMALE_SIGN EARTH MALE_SIGN JUPITER
   SATURN URANUS NEPTUNE PLUTO ARIES TAURUS GEMINI CANCER LEO VIRGO LIBRA SCORPIUS SAGITTARIUS CAPRICORN
   AQUARIUS PISCES WHITE_CHESS_KING WHITE_CHESS_QUEEN WHITE_CHESS_ROOK WHITE_CHESS_BISHOP WHITE_CHESS_KNIGHT
   WHITE_CHESS_PAWN BLACK_CHESS_KING BLACK_CHESS_QUEEN BLACK_CHESS_ROOK BLACK_CHESS_BISHOP BLACK_CHESS_KNIGHT
   BLACK_CHESS_PAWN BLACK_SPADE_SUIT WHITE_HEART_SUIT WHITE_DIAMOND_SUIT BLACK_CLUB_SUIT WHITE_SPADE_SUIT
   BLACK_HEART_SUIT BLACK_DIAMOND_SUIT WHITE_CLUB_SUIT HOT_SPRINGS QUARTER_NOTE EIGHTH_NOTE
   BEAMED_EIGHTH_NOTES BEAMED_SIXTEENTH_NOTES MUSIC_FLAT_SIGN MUSIC_NATURAL_SIGN MUSIC_SHARP_SIGN
   WEST_SYRIAC_CROSS EAST_SYRIAC_CROSS UNIVERSAL_RECYCLING_SYMBOL RECYCLING_SYMBOL_FOR_TYPE-1_PLASTICS
   RECYCLING_SYMBOL_FOR_TYPE-2_PLASTICS RECYCLING_SYMBOL_FOR_TYPE-3_PLASTICS
   RECYCLING_SYMBOL_FOR_TYPE-4_PLASTICS RECYCLING_SYMBOL_FOR_TYPE-5_PLASTICS
   RECYCLING_SYMBOL_FOR_TYPE-6_PLASTICS RECYCLING_SYMBOL_FOR_TYPE-7_PLASTICS
   RECYCLING_SYMBOL_FOR_GENERIC_MATERIALS BLACK_UNIVERSAL_RECYCLING_SYMBOL RECYCLED_PAPER_SYMBOL
   PARTIALLY-RECYCLED_PAPER_SYMBOL PERMANENT_PAPER_SIGN WHEELCHAIR_SYMBOL DIE_FACE-1 DIE_FACE-2 DIE_FACE-3
   DIE_FACE-4 DIE_FACE-5 DIE_FACE-6 WHITE_CIRCLE_WITH_DOT_RIGHT WHITE_CIRCLE_WITH_TWO_DOTS
   BLACK_CIRCLE_WITH_WHITE_DOT_RIGHT BLACK_CIRCLE_WITH_TWO_WHITE_DOTS MONOGRAM_FOR_YANG MONOGRAM_FOR_YIN
   DIGRAM_FOR_GREATER_YANG DIGRAM_FOR_LESSER_YIN DIGRAM_FOR_LESSER_YANG DIGRAM_FOR_GREATER_YIN WHITE_FLAG
   BLACK_FLAG HAMMER_AND_PICK ANCHOR CROSSED_SWORDS STAFF_OF_AESCULAPIUS SCALES ALEMBIC FLOWER GEAR
   STAFF_OF_HERMES ATOM_SYMBOL FLEUR-DE-LIS OUTLINED_WHITE_STAR THREE_LINES_CONVERGING_RIGHT
   THREE_LINES_CONVERGING_LEFT WARNING_SIGN HIGH_VOLTAGE_SIGN DOUBLED_FEMALE_SIGN DOUBLED_MALE_SIGN
   INTERLOCKED_FEMALE_AND_MALE_SIGN MALE_AND_FEMALE_SIGN MALE_WITH_STROKE_SIGN
   MALE_WITH_STROKE_AND_MALE_AND_FEMALE_SIGN VERTICAL_MALE_WITH_STROKE_SIGN HORIZONTAL_MALE_WITH_STROKE_SIGN
   MEDIUM_WHITE_CIRCLE MEDIUM_BLACK_CIRCLE MEDIUM_SMALL_WHITE_CIRCLE MARRIAGE_SYMBOL DIVORCE_SYMBOL
   UNMARRIED_PARTNERSHIP_SYMBOL COFFIN FUNERAL_URN NEUTER CERES PALLAS JUNO VESTA CHIRON BLACK_MOON_LILITH
   SEXTILE SEMISEXTILE QUINCUNX SESQUIQUADRATE SOCCER_BALL BASEBALL SQUARED_KEY WHITE_DRAUGHTS_MAN
   WHITE_DRAUGHTS_KING BLACK_DRAUGHTS_MAN BLACK_DRAUGHTS_KING SNOWMAN_WITHOUT_SNOW SUN_BEHIND_CLOUD RAIN
   BLACK_SNOWMAN THUNDER_CLOUD_AND_RAIN TURNED_WHITE_SHOGI_PIECE TURNED_BLACK_SHOGI_PIECE
   WHITE_DIAMOND_IN_SQUARE CROSSING_LANES DISABLED_CAR OPHIUCHUS PICK CAR_SLIDING HELMET_WITH_WHITE_CROSS
   CIRCLED_CROSSING_LANES CHAINS NO_ENTRY ALTERNATE_ONE-WAY_LEFT_WAY_TRAFFIC BLACK_TWO-WAY_LEFT_WAY_TRAFFIC
   WHITE_TWO-WAY_LEFT_WAY_TRAFFIC BLACK_LEFT_LANE_MERGE WHITE_LEFT_LANE_MERGE DRIVE_SLOW_SIGN
   HEAVY_WHITE_DOWN-POINTING_TRIANGLE LEFT_CLOSED_ENTRY SQUARED_SALTIRE
   FALLING_DIAGONAL_IN_WHITE_CIRCLE_IN_BLACK_SQUARE BLACK_TRUCK RESTRICTED_LEFT_ENTRY-1
   RESTRICTED_LEFT_ENTRY-2 ASTRONOMICAL_SYMBOL_FOR_URANUS HEAVY_CIRCLE_WITH_STROKE_AND_TWO_DOTS_ABOVE
   PENTAGRAM RIGHT-HANDED_INTERLACED_PENTAGRAM LEFT-HANDED_INTERLACED_PENTAGRAM INVERTED_PENTAGRAM
   BLACK_CROSS_ON_SHIELD SHINTO_SHRINE CHURCH CASTLE HISTORIC_SITE GEAR_WITHOUT_HUB GEAR_WITH_HANDLES
   MAP_SYMBOL_FOR_LIGHTHOUSE MOUNTAIN UMBRELLA_ON_GROUND FOUNTAIN FLAG_IN_HOLE FERRY SAILBOAT
   SQUARE_FOUR_CORNERS SKIER ICE_SKATE PERSON_WITH_BALL TENT JAPANESE_BANK_SYMBOL HEADSTONE_GRAVEYARD_SYMBOL
   FUEL_PUMP CUP_ON_BLACK_SQUARE WHITE_FLAG_WITH_HORIZONTAL_MIDDLE_BLACK_STRIPE BLACK_SAFETY_SCISSORS
   UPPER_BLADE_SCISSORS BLACK_SCISSORS LOWER_BLADE_SCISSORS WHITE_SCISSORS WHITE_HEAVY_CHECK_MARK
   TELEPHONE_LOCATION_SIGN TAPE_DRIVE AIRPLANE ENVELOPE RAISED_FIST RAISED_HAND VICTORY_HAND WRITING_HAND
   LOWER_RIGHT_PENCIL PENCIL UPPER_RIGHT_PENCIL WHITE_NIB BLACK_NIB CHECK_MARK HEAVY_CHECK_MARK
   MULTIPLICATION_X HEAVY_MULTIPLICATION_X BALLOT_X HEAVY_BALLOT_X OUTLINED_GREEK_CROSS HEAVY_GREEK_CROSS
   OPEN_CENTRE_CROSS HEAVY_OPEN_CENTRE_CROSS LATIN_CROSS SHADOWED_WHITE_LATIN_CROSS OUTLINED_LATIN_CROSS
   MALTESE_CROSS STAR_OF_DAVID FOUR_TEARDROP-SPOKED_ASTERISK FOUR_BALLOON-SPOKED_ASTERISK
   HEAVY_FOUR_BALLOON-SPOKED_ASTERISK FOUR_CLUB-SPOKED_ASTERISK BLACK_FOUR_POINTED_STAR
   WHITE_FOUR_POINTED_STAR SPARKLES STRESS_OUTLINED_WHITE_STAR CIRCLED_WHITE_STAR OPEN_CENTRE_BLACK_STAR
   BLACK_CENTRE_WHITE_STAR OUTLINED_BLACK_STAR HEAVY_OUTLINED_BLACK_STAR PINWHEEL_STAR SHADOWED_WHITE_STAR
   HEAVY_ASTERISK OPEN_CENTRE_ASTERISK EIGHT_SPOKED_ASTERISK EIGHT_POINTED_BLACK_STAR
   EIGHT_POINTED_PINWHEEL_STAR SIX_POINTED_BLACK_STAR EIGHT_POINTED_RECTILINEAR_BLACK_STAR
   HEAVY_EIGHT_POINTED_RECTILINEAR_BLACK_STAR TWELVE_POINTED_BLACK_STAR SIXTEEN_POINTED_ASTERISK
   TEARDROP-SPOKED_ASTERISK OPEN_CENTRE_TEARDROP-SPOKED_ASTERISK HEAVY_TEARDROP-SPOKED_ASTERISK
   SIX_PETALLED_BLACK_AND_WHITE_FLORETTE BLACK_FLORETTE WHITE_FLORETTE EIGHT_PETALLED_OUTLINED_BLACK_FLORETTE
   CIRCLED_OPEN_CENTRE_EIGHT_POINTED_STAR HEAVY_TEARDROP-SPOKED_PINWHEEL_ASTERISK SNOWFLAKE
   TIGHT_TRIFOLIATE_SNOWFLAKE HEAVY_CHEVRON_SNOWFLAKE SPARKLE HEAVY_SPARKLE BALLOON-SPOKED_ASTERISK
   EIGHT_TEARDROP-SPOKED_PROPELLER_ASTERISK HEAVY_EIGHT_TEARDROP-SPOKED_PROPELLER_ASTERISK CROSS_MARK
   SHADOWED_WHITE_CIRCLE NEGATIVE_SQUARED_CROSS_MARK LOWER_RIGHT_DROP-SHADOWED_WHITE_SQUARE
   UPPER_RIGHT_DROP-SHADOWED_WHITE_SQUARE LOWER_RIGHT_SHADOWED_WHITE_SQUARE UPPER_RIGHT_SHADOWED_WHITE_SQUARE
   BLACK_QUESTION_MARK_ORNAMENT WHITE_QUESTION_MARK_ORNAMENT WHITE_EXCLAMATION_MARK_ORNAMENT
   BLACK_DIAMOND_MINUS_WHITE_X HEAVY_EXCLAMATION_MARK_SYMBOL LIGHT_VERTICAL_BAR MEDIUM_VERTICAL_BAR
   HEAVY_VERTICAL_BAR HEAVY_SINGLE_TURNED_COMMA_QUOTATION_MARK_ORNAMENT
   HEAVY_SINGLE_COMMA_QUOTATION_MARK_ORNAMENT HEAVY_DOUBLE_TURNED_COMMA_QUOTATION_MARK_ORNAMENT
   HEAVY_DOUBLE_COMMA_QUOTATION_MARK_ORNAMENT HEAVY_LOW_SINGLE_COMMA_QUOTATION_MARK_ORNAMENT
   HEAVY_LOW_DOUBLE_COMMA_QUOTATION_MARK_ORNAMENT CURVED_STEM_PARAGRAPH_SIGN_ORNAMENT
   HEAVY_EXCLAMATION_MARK_ORNAMENT HEAVY_HEART_EXCLAMATION_MARK_ORNAMENT HEAVY_BLACK_HEART
   ROTATED_HEAVY_BLACK_HEART_BULLET FLORAL_HEART ROTATED_FLORAL_HEART_BULLET MEDIUM_LEFT_PARENTHESIS_ORNAMENT
   MEDIUM_RIGHT_PARENTHESIS_ORNAMENT MEDIUM_FLATTENED_LEFT_PARENTHESIS_ORNAMENT
   MEDIUM_FLATTENED_RIGHT_PARENTHESIS_ORNAMENT MEDIUM_LEFT-POINTING_ANGLE_BRACKET_ORNAMENT
   MEDIUM_RIGHT-POINTING_ANGLE_BRACKET_ORNAMENT HEAVY_LEFT-POINTING_ANGLE_QUOTATION_MARK_ORNAMENT
   HEAVY_RIGHT-POINTING_ANGLE_QUOTATION_MARK_ORNAMENT HEAVY_LEFT-POINTING_ANGLE_BRACKET_ORNAMENT
   HEAVY_RIGHT-POINTING_ANGLE_BRACKET_ORNAMENT LIGHT_LEFT_TORTOISE_SHELL_BRACKET_ORNAMENT
   LIGHT_RIGHT_TORTOISE_SHELL_BRACKET_ORNAMENT MEDIUM_LEFT_CURLY_BRACKET_ORNAMENT
   MEDIUM_RIGHT_CURLY_BRACKET_ORNAMENT DINGBAT_NEGATIVE_CIRCLED_DIGIT_ONE DINGBAT_NEGATIVE_CIRCLED_DIGIT_TWO
   DINGBAT_NEGATIVE_CIRCLED_DIGIT_THREE DINGBAT_NEGATIVE_CIRCLED_DIGIT_FOUR
   DINGBAT_NEGATIVE_CIRCLED_DIGIT_FIVE DINGBAT_NEGATIVE_CIRCLED_DIGIT_SIX
   DINGBAT_NEGATIVE_CIRCLED_DIGIT_SEVEN DINGBAT_NEGATIVE_CIRCLED_DIGIT_EIGHT
   DINGBAT_NEGATIVE_CIRCLED_DIGIT_NINE DINGBAT_NEGATIVE_CIRCLED_NUMBER_TEN
   DINGBAT_CIRCLED_SANS-SERIF_DIGIT_ONE DINGBAT_CIRCLED_SANS-SERIF_DIGIT_TWO
   DINGBAT_CIRCLED_SANS-SERIF_DIGIT_THREE DINGBAT_CIRCLED_SANS-SERIF_DIGIT_FOUR
   DINGBAT_CIRCLED_SANS-SERIF_DIGIT_FIVE DINGBAT_CIRCLED_SANS-SERIF_DIGIT_SIX
   DINGBAT_CIRCLED_SANS-SERIF_DIGIT_SEVEN DINGBAT_CIRCLED_SANS-SERIF_DIGIT_EIGHT
   DINGBAT_CIRCLED_SANS-SERIF_DIGIT_NINE DINGBAT_CIRCLED_SANS-SERIF_NUMBER_TEN
   DINGBAT_NEGATIVE_CIRCLED_SANS-SERIF_DIGIT_ONE DINGBAT_NEGATIVE_CIRCLED_SANS-SERIF_DIGIT_TWO
   DINGBAT_NEGATIVE_CIRCLED_SANS-SERIF_DIGIT_THREE DINGBAT_NEGATIVE_CIRCLED_SANS-SERIF_DIGIT_FOUR
   DINGBAT_NEGATIVE_CIRCLED_SANS-SERIF_DIGIT_FIVE DINGBAT_NEGATIVE_CIRCLED_SANS-SERIF_DIGIT_SIX
   DINGBAT_NEGATIVE_CIRCLED_SANS-SERIF_DIGIT_SEVEN DINGBAT_NEGATIVE_CIRCLED_SANS-SERIF_DIGIT_EIGHT
   DINGBAT_NEGATIVE_CIRCLED_SANS-SERIF_DIGIT_NINE DINGBAT_NEGATIVE_CIRCLED_SANS-SERIF_NUMBER_TEN
   HEAVY_WIDE-HEADED_RIGHTWARDS_ARROW HEAVY_PLUS_SIGN HEAVY_MINUS_SIGN HEAVY_DIVISION_SIGN
   HEAVY_SOUTH_EAST_ARROW HEAVY_RIGHTWARDS_ARROW HEAVY_NORTH_EAST_ARROW DRAFTING_POINT_RIGHTWARDS_ARROW
   HEAVY_ROUND-TIPPED_RIGHTWARDS_ARROW TRIANGLE-HEADED_RIGHTWARDS_ARROW
   HEAVY_TRIANGLE-HEADED_RIGHTWARDS_ARROW DASHED_TRIANGLE-HEADED_RIGHTWARDS_ARROW
   HEAVY_DASHED_TRIANGLE-HEADED_RIGHTWARDS_ARROW BLACK_RIGHTWARDS_ARROW
   THREE-D_TOP-LIGHTED_RIGHTWARDS_ARROWHEAD THREE-D_BOTTOM-LIGHTED_RIGHTWARDS_ARROWHEAD
   BLACK_RIGHTWARDS_ARROWHEAD HEAVY_BLACK_CURVED_DOWNWARDS_AND_RIGHTWARDS_ARROW
   HEAVY_BLACK_CURVED_UPWARDS_AND_RIGHTWARDS_ARROW SQUAT_BLACK_RIGHTWARDS_ARROW
   HEAVY_CONCAVE-POINTED_BLACK_RIGHTWARDS_ARROW RIGHT-SHADED_WHITE_RIGHTWARDS_ARROW
   LEFT-SHADED_WHITE_RIGHTWARDS_ARROW BACK-TILTED_SHADOWED_WHITE_RIGHTWARDS_ARROW
   FRONT-TILTED_SHADOWED_WHITE_RIGHTWARDS_ARROW HEAVY_LOWER_RIGHT-SHADOWED_WHITE_RIGHTWARDS_ARROW
   HEAVY_UPPER_RIGHT-SHADOWED_WHITE_RIGHTWARDS_ARROW NOTCHED_LOWER_RIGHT-SHADOWED_WHITE_RIGHTWARDS_ARROW
   CURLY_LOOP NOTCHED_UPPER_RIGHT-SHADOWED_WHITE_RIGHTWARDS_ARROW CIRCLED_HEAVY_WHITE_RIGHTWARDS_ARROW
   WHITE-FEATHERED_RIGHTWARDS_ARROW BLACK-FEATHERED_SOUTH_EAST_ARROW BLACK-FEATHERED_RIGHTWARDS_ARROW
   BLACK-FEATHERED_NORTH_EAST_ARROW HEAVY_BLACK-FEATHERED_SOUTH_EAST_ARROW
   HEAVY_BLACK-FEATHERED_RIGHTWARDS_ARROW HEAVY_BLACK-FEATHERED_NORTH_EAST_ARROW
   TEARDROP-BARBED_RIGHTWARDS_ARROW HEAVY_TEARDROP-SHANKED_RIGHTWARDS_ARROW WEDGE-TAILED_RIGHTWARDS_ARROW
   HEAVY_WEDGE-TAILED_RIGHTWARDS_ARROW OPEN-OUTLINED_RIGHTWARDS_ARROW DOUBLE_CURLY_LOOP
   3000:IDEOGRAPHIC_SPACE IDEOGRAPHIC_COMMA IDEOGRAPHIC_FULL_STOP DITTO_MARK
   JAPANESE_INDUSTRIAL_STANDARD_SYMBOL IDEOGRAPHIC_ITERATION_MARK IDEOGRAPHIC_CLOSING_MARK
   IDEOGRAPHIC_NUMBER_ZERO LEFT_ANGLE_BRACKET RIGHT_ANGLE_BRACKET LEFT_DOUBLE_ANGLE_BRACKET
   RIGHT_DOUBLE_ANGLE_BRACKET LEFT_CORNER_BRACKET RIGHT_CORNER_BRACKET LEFT_WHITE_CORNER_BRACKET
   RIGHT_WHITE_CORNER_BRACKET LEFT_BLACK_LENTICULAR_BRACKET RIGHT_BLACK_LENTICULAR_BRACKET POSTAL_MARK
   GETA_MARK LEFT_TORTOISE_SHELL_BRACKET RIGHT_TORTOISE_SHELL_BRACKET LEFT_WHITE_LENTICULAR_BRACKET
   RIGHT_WHITE_LENTICULAR_BRACKET LEFT_WHITE_TORTOISE_SHELL_BRACKET RIGHT_WHITE_TORTOISE_SHELL_BRACKET
   LEFT_WHITE_SQUARE_BRACKET RIGHT_WHITE_SQUARE_BRACKET WAVE_DASH REVERSED_DOUBLE_PRIME_QUOTATION_MARK
   DOUBLE_PRIME_QUOTATION_MARK LOW_DOUBLE_PRIME_QUOTATION_MARK POSTAL_MARK_FACE HANGZHOU_NUMERAL_ONE
   HANGZHOU_NUMERAL_TWO HANGZHOU_NUMERAL_THREE HANGZHOU_NUMERAL_FOUR HANGZHOU_NUMERAL_FIVE
   HANGZHOU_NUMERAL_SIX HANGZHOU_NUMERAL_SEVEN HANGZHOU_NUMERAL_EIGHT HANGZHOU_NUMERAL_NINE
   IDEOGRAPHIC_LEVEL_TONE_MARK IDEOGRAPHIC_RISING_TONE_MARK IDEOGRAPHIC_DEPARTING_TONE_MARK
   IDEOGRAPHIC_ENTERING_TONE_MARK HANGUL_SINGLE_DOT_TONE_MARK HANGUL_DOUBLE_DOT_TONE_MARK WAVY_DASH
   VERTICAL_KANA_REPEAT_MARK VERTICAL_KANA_REPEAT_WITH_VOICED_SOUND_MARK VERTICAL_KANA_REPEAT_MARK_UPPER_HALF
   VERTICAL_KANA_REPEAT_WITH_VOICED_SOUND_MARK_UPPER_HALF VERTICAL_KANA_REPEAT_MARK_LOWER_HALF
   CIRCLED_POSTAL_MARK IDEOGRAPHIC_TELEGRAPH_LINE_FEED_SEPARATOR_SYMBOL HANGZHOU_NUMERAL_TEN
   HANGZHOU_NUMERAL_TWENTY HANGZHOU_NUMERAL_THIRTY VERTICAL_IDEOGRAPHIC_ITERATION_MARK MASU_MARK
   PART_ALTERNATION_MARK IDEOGRAPHIC_VARIATION_INDICATOR IDEOGRAPHIC_HALF_FILL_SPACE
   fb00:LATIN_SMALL_LIGATURE_FF LATIN_SMALL_LIGATURE_FI LATIN_SMALL_LIGATURE_FL LATIN_SMALL_LIGATURE_FFI
   LATIN_SMALL_LIGATURE_FFL LATIN_SMALL_LIGATURE_LONG_S_T LATIN_SMALL_LIGATURE_ST
   feff:ZERO_WIDTH_NO-BREAK_SPACE fff9:INTERLINEAR_ANNOTATION_ANCHOR INTERLINEAR_ANNOTATION_SEPARATOR
   INTERLINEAR_ANNOTATION_TERMINATOR OBJECT_REPLACEMENT_CHARACTER REPLACEMENT_CHARACTER 1f300:CYCLONE FOGGY
   CLOSED_UMBRELLA NIGHT_WITH_STARS SUNRISE_OVER_MOUNTAINS SUNRISE CITYSCAPE_AT_DUSK SUNSET_OVER_BUILDINGS
   RAINBOW BRIDGE_AT_NIGHT WATER_WAVE VOLCANO MILKY_WAY EARTH_GLOBE_EUROPE-AFRICA EARTH_GLOBE_AMERICAS
   EARTH_GLOBE_ASIA-AUSTRALIA GLOBE_WITH_MERIDIANS NEW_MOON_SYMBOL WAXING_CRESCENT_MOON_SYMBOL
   FIRST_QUARTER_MOON_SYMBOL WAXING_GIBBOUS_MOON_SYMBOL FULL_MOON_SYMBOL WANING_GIBBOUS_MOON_SYMBOL
   LAST_QUARTER_MOON_SYMBOL WANING_CRESCENT_MOON_SYMBOL CRESCENT_MOON NEW_MOON_WITH_FACE
   FIRST_QUARTER_MOON_WITH_FACE LAST_QUARTER_MOON_WITH_FACE FULL_MOON_WITH_FACE SUN_WITH_FACE GLOWING_STAR
   SHOOTING_STAR THERMOMETER BLACK_DROPLET WHITE_SUN WHITE_SUN_WITH_SMALL_CLOUD WHITE_SUN_BEHIND_CLOUD
   WHITE_SUN_BEHIND_CLOUD_WITH_RAIN CLOUD_WITH_RAIN CLOUD_WITH_SNOW CLOUD_WITH_LIGHTNING CLOUD_WITH_TORNADO
   FOG WIND_BLOWING_FACE HOT_DOG TACO BURRITO CHESTNUT SEEDLING EVERGREEN_TREE DECIDUOUS_TREE PALM_TREE
   CACTUS HOT_PEPPER TULIP CHERRY_BLOSSOM ROSE HIBISCUS SUNFLOWER BLOSSOM EAR_OF_MAIZE EAR_OF_RICE HERB
   FOUR_LEAF_CLOVER MAPLE_LEAF FALLEN_LEAF LEAF_FLUTTERING_IN_WIND MUSHROOM TOMATO AUBERGINE GRAPES MELON
   WATERMELON TANGERINE LEMON BANANA PINEAPPLE RED_APPLE GREEN_APPLE PEAR PEACH CHERRIES STRAWBERRY HAMBURGER
   SLICE_OF_PIZZA MEAT_ON_BONE POULTRY_LEG RICE_CRACKER RICE_BALL COOKED_RICE CURRY_AND_RICE STEAMING_BOWL
   SPAGHETTI BREAD FRENCH_FRIES ROASTED_SWEET_POTATO DANGO ODEN SUSHI FRIED_SHRIMP
   FISH_CAKE_WITH_SWIRL_DESIGN SOFT_ICE_CREAM SHAVED_ICE ICE_CREAM DOUGHNUT COOKIE CHOCOLATE_BAR CANDY
   LOLLIPOP CUSTARD HONEY_POT SHORTCAKE BENTO_BOX POT_OF_FOOD COOKING FORK_AND_KNIFE TEACUP_WITHOUT_HANDLE
   SAKE_BOTTLE_AND_CUP WINE_GLASS COCKTAIL_GLASS TROPICAL_DRINK BEER_MUG CLINKING_BEER_MUGS BABY_BOTTLE
   FORK_AND_KNIFE_WITH_PLATE BOTTLE_WITH_POPPING_CORK POPCORN RIBBON WRAPPED_PRESENT BIRTHDAY_CAKE
   JACK-O-LANTERN CHRISTMAS_TREE FATHER_CHRISTMAS FIREWORKS FIREWORK_SPARKLER BALLOON PARTY_POPPER
   CONFETTI_BALL TANABATA_TREE CROSSED_FLAGS PINE_DECORATION JAPANESE_DOLLS CARP_STREAMER WIND_CHIME
   MOON_VIEWING_CEREMONY SCHOOL_SATCHEL GRADUATION_CAP HEART_WITH_TIP_ON_THE_LEFT BOUQUET_OF_FLOWERS
   MILITARY_MEDAL REMINDER_RIBBON MUSICAL_KEYBOARD_WITH_JACKS STUDIO_MICROPHONE LEVEL_SLIDER CONTROL_KNOBS
   BEAMED_ASCENDING_MUSICAL_NOTES BEAMED_DESCENDING_MUSICAL_NOTES FILM_FRAMES ADMISSION_TICKETS
   CAROUSEL_HORSE FERRIS_WHEEL ROLLER_COASTER FISHING_POLE_AND_FISH MICROPHONE MOVIE_CAMERA CINEMA HEADPHONE
   ARTIST_PALETTE TOP_HAT CIRCUS_TENT TICKET CLAPPER_BOARD PERFORMING_ARTS VIDEO_GAME DIRECT_HIT SLOT_MACHINE
   BILLIARDS GAME_DIE BOWLING FLOWER_PLAYING_CARDS MUSICAL_NOTE MULTIPLE_MUSICAL_NOTES SAXOPHONE GUITAR
   MUSICAL_KEYBOARD TRUMPET VIOLIN MUSICAL_SCORE RUNNING_SHIRT_WITH_SASH TENNIS_RACQUET_AND_BALL
   SKI_AND_SKI_BOOT BASKETBALL_AND_HOOP CHEQUERED_FLAG SNOWBOARDER RUNNER SURFER SPORTS_MEDAL TROPHY
   HORSE_RACING AMERICAN_FOOTBALL RUGBY_FOOTBALL SWIMMER WEIGHT_LIFTER GOLFER RACING_MOTORCYCLE RACING_CAR
   CRICKET_BAT_AND_BALL VOLLEYBALL FIELD_HOCKEY_STICK_AND_BALL ICE_HOCKEY_STICK_AND_PUCK
   TABLE_TENNIS_PADDLE_AND_BALL SNOW_CAPPED_MOUNTAIN CAMPING BEACH_WITH_UMBRELLA BUILDING_CONSTRUCTION
   HOUSE_BUILDINGS CITYSCAPE DERELICT_HOUSE_BUILDING CLASSICAL_BUILDING DESERT DESERT_ISLAND NATIONAL_PARK
   STADIUM HOUSE_BUILDING HOUSE_WITH_GARDEN OFFICE_BUILDING JAPANESE_POST_OFFICE EUROPEAN_POST_OFFICE
   HOSPITAL BANK AUTOMATED_TELLER_MACHINE HOTEL LOVE_HOTEL CONVENIENCE_STORE SCHOOL DEPARTMENT_STORE FACTORY
   IZAKAYA_LANTERN JAPANESE_CASTLE EUROPEAN_CASTLE WHITE_PENNANT BLACK_PENNANT WAVING_WHITE_FLAG
   WAVING_BLACK_FLAG ROSETTE BLACK_ROSETTE LABEL BADMINTON_RACQUET_AND_SHUTTLECOCK BOW_AND_ARROW AMPHORA
   EMOJI_MODIFIER_FITZPATRICK_TYPE-1-2 EMOJI_MODIFIER_FITZPATRICK_TYPE-3 EMOJI_MODIFIER_FITZPATRICK_TYPE-4
   EMOJI_MODIFIER_FITZPATRICK_TYPE-5 EMOJI_MODIFIER_FITZPATRICK_TYPE-6 RAT MOUSE OX WATER_BUFFALO COW TIGER
   LEOPARD RABBIT CAT DRAGON CROCODILE WHALE SNAIL SNAKE HORSE RAM GOAT SHEEP MONKEY ROOSTER CHICKEN DOG PIG
   BOAR ELEPHANT OCTOPUS SPIRAL_SHELL BUG ANT HONEYBEE LADY_BEETLE FISH TROPICAL_FISH BLOWFISH TURTLE
   HATCHING_CHICK BABY_CHICK FRONT-FACING_BABY_CHICK BIRD PENGUIN KOALA POODLE DROMEDARY_CAMEL BACTRIAN_CAMEL
   DOLPHIN MOUSE_FACE COW_FACE TIGER_FACE RABBIT_FACE CAT_FACE DRAGON_FACE SPOUTING_WHALE HORSE_FACE
   MONKEY_FACE DOG_FACE PIG_FACE FROG_FACE HAMSTER_FACE WOLF_FACE BEAR_FACE PANDA_FACE PIG_NOSE PAW_PRINTS
   CHIPMUNK EYES EYE EAR NOSE MOUTH TONGUE WHITE_UP_POINTING_BACKHAND_INDEX
   WHITE_DOWN_POINTING_BACKHAND_INDEX WHITE_LEFT_POINTING_BACKHAND_INDEX WHITE_RIGHT_POINTING_BACKHAND_INDEX
   FISTED_HAND_SIGN WAVING_HAND_SIGN OK_HAND_SIGN THUMBS_UP_SIGN THUMBS_DOWN_SIGN CLAPPING_HANDS_SIGN
   OPEN_HANDS_SIGN CROWN WOMANS_HAT EYEGLASSES NECKTIE T-SHIRT JEANS DRESS KIMONO BIKINI WOMANS_CLOTHES PURSE
   HANDBAG POUCH MANS_SHOE ATHLETIC_SHOE HIGH-HEELED_SHOE WOMANS_SANDAL WOMANS_BOOTS FOOTPRINTS
   BUST_IN_SILHOUETTE BUSTS_IN_SILHOUETTE BOY GIRL MAN WOMAN FAMILY MAN_AND_WOMAN_HOLDING_HANDS
   TWO_MEN_HOLDING_HANDS TWO_WOMEN_HOLDING_HANDS POLICE_OFFICER WOMAN_WITH_BUNNY_EARS BRIDE_WITH_VEIL
   PERSON_WITH_BLOND_HAIR MAN_WITH_GUA_PI_MAO MAN_WITH_TURBAN OLDER_MAN OLDER_WOMAN BABY CONSTRUCTION_WORKER
   PRINCESS JAPANESE_OGRE JAPANESE_GOBLIN GHOST BABY_ANGEL EXTRATERRESTRIAL_ALIEN ALIEN_MONSTER IMP SKULL
   INFORMATION_DESK_PERSON GUARDSMAN DANCER LIPSTICK NAIL_POLISH FACE_MASSAGE HAIRCUT BARBER_POLE SYRINGE
   PILL KISS_MARK LOVE_LETTER RING GEM_STONE KISS BOUQUET COUPLE_WITH_HEART WEDDING BEATING_HEART
   BROKEN_HEART TWO_HEARTS SPARKLING_HEART GROWING_HEART HEART_WITH_ARROW BLUE_HEART GREEN_HEART YELLOW_HEART
   PURPLE_HEART HEART_WITH_RIBBON REVOLVING_HEARTS HEART_DECORATION DIAMOND_SHAPE_WITH_A_DOT_INSIDE
   ELECTRIC_LIGHT_BULB ANGER_SYMBOL BOMB SLEEPING_SYMBOL COLLISION_SYMBOL SPLASHING_SWEAT_SYMBOL DROPLET
   DASH_SYMBOL PILE_OF_POO FLEXED_BICEPS DIZZY_SYMBOL SPEECH_BALLOON THOUGHT_BALLOON WHITE_FLOWER
   HUNDRED_POINTS_SYMBOL MONEY_BAG CURRENCY_EXCHANGE HEAVY_DOLLAR_SIGN CREDIT_CARD BANKNOTE_WITH_YEN_SIGN
   BANKNOTE_WITH_DOLLAR_SIGN BANKNOTE_WITH_EURO_SIGN BANKNOTE_WITH_POUND_SIGN MONEY_WITH_WINGS
   CHART_WITH_UPWARDS_TREND_AND_YEN_SIGN SEAT PERSONAL_COMPUTER BRIEFCASE MINIDISC FLOPPY_DISK OPTICAL_DISC
   DVD FILE_FOLDER OPEN_FILE_FOLDER PAGE_WITH_CURL PAGE_FACING_UP CALENDAR TEAR-OFF_CALENDAR CARD_INDEX
   CHART_WITH_UPWARDS_TREND CHART_WITH_DOWNWARDS_TREND BAR_CHART CLIPBOARD PUSHPIN ROUND_PUSHPIN PAPERCLIP
   STRAIGHT_RULER TRIANGULAR_RULER BOOKMARK_TABS LEDGER NOTEBOOK NOTEBOOK_WITH_DECORATIVE_COVER CLOSED_BOOK
   OPEN_BOOK GREEN_BOOK BLUE_BOOK ORANGE_BOOK BOOKS NAME_BADGE SCROLL MEMO TELEPHONE_RECEIVER PAGER
   FAX_MACHINE SATELLITE_ANTENNA PUBLIC_ADDRESS_LOUDSPEAKER CHEERING_MEGAPHONE OUTBOX_TRAY INBOX_TRAY PACKAGE
   E-MAIL_SYMBOL INCOMING_ENVELOPE ENVELOPE_WITH_DOWNWARDS_ARROW_ABOVE CLOSED_MAILBOX_WITH_LOWERED_FLAG
   CLOSED_MAILBOX_WITH_RAISED_FLAG OPEN_MAILBOX_WITH_RAISED_FLAG OPEN_MAILBOX_WITH_LOWERED_FLAG POSTBOX
   POSTAL_HORN NEWSPAPER MOBILE_PHONE MOBILE_PHONE_WITH_RIGHTWARDS_ARROW_AT_LEFT VIBRATION_MODE
   MOBILE_PHONE_OFF NO_MOBILE_PHONES ANTENNA_WITH_BARS CAMERA CAMERA_WITH_FLASH VIDEO_CAMERA TELEVISION RADIO
   VIDEOCASSETTE FILM_PROJECTOR PORTABLE_STEREO PRAYER_BEADS TWISTED_RIGHTWARDS_ARROWS
   CLOCKWISE_RIGHTWARDS_AND_LEFTWARDS_OPEN_CIRCLE_ARROWS
   CLOCKWISE_RIGHTWARDS_AND_LEFTWARDS_OPEN_CIRCLE_ARROWS_WITH_CIRCLED_ONE_OVERLAY
   CLOCKWISE_DOWNWARDS_AND_UPWARDS_OPEN_CIRCLE_ARROWS ANTICLOCKWISE_DOWNWARDS_AND_UPWARDS_OPEN_CIRCLE_ARROWS
   LOW_BRIGHTNESS_SYMBOL HIGH_BRIGHTNESS_SYMBOL SPEAKER_WITH_CANCELLATION_STROKE SPEAKER
   SPEAKER_WITH_ONE_SOUND_WAVE SPEAKER_WITH_THREE_SOUND_WAVES BATTERY ELECTRIC_PLUG
   LEFT-POINTING_MAGNIFYING_GLASS RIGHT-POINTING_MAGNIFYING_GLASS LOCK_WITH_INK_PEN CLOSED_LOCK_WITH_KEY KEY
   LOCK OPEN_LOCK BELL BELL_WITH_CANCELLATION_STROKE BOOKMARK LINK_SYMBOL RADIO_BUTTON
   BACK_WITH_LEFTWARDS_ARROW_ABOVE END_WITH_LEFTWARDS_ARROW_ABOVE
   ON_WITH_EXCLAMATION_MARK_WITH_LEFT_RIGHT_ARROW_ABOVE SOON_WITH_RIGHTWARDS_ARROW_ABOVE
   TOP_WITH_UPWARDS_ARROW_ABOVE NO_ONE_UNDER_EIGHTEEN_SYMBOL KEYCAP_TEN
   INPUT_SYMBOL_FOR_LATIN_CAPITAL_LETTERS INPUT_SYMBOL_FOR_LATIN_SMALL_LETTERS INPUT_SYMBOL_FOR_NUMBERS
   INPUT_SYMBOL_FOR_SYMBOLS INPUT_SYMBOL_FOR_LATIN_LETTERS FIRE ELECTRIC_TORCH WRENCH HAMMER NUT_AND_BOLT
   HOCHO PISTOL MICROSCOPE TELESCOPE CRYSTAL_BALL SIX_POINTED_STAR_WITH_MIDDLE_DOT
   JAPANESE_SYMBOL_FOR_BEGINNER TRIDENT_EMBLEM BLACK_SQUARE_BUTTON WHITE_SQUARE_BUTTON LARGE_RED_CIRCLE
   LARGE_BLUE_CIRCLE LARGE_ORANGE_DIAMOND LARGE_BLUE_DIAMOND SMALL_ORANGE_DIAMOND SMALL_BLUE_DIAMOND
   UP-POINTING_RED_TRIANGLE DOWN-POINTING_RED_TRIANGLE UP-POINTING_SMALL_RED_TRIANGLE
   DOWN-POINTING_SMALL_RED_TRIANGLE LOWER_RIGHT_SHADOWED_WHITE_CIRCLE UPPER_RIGHT_SHADOWED_WHITE_CIRCLE
   CIRCLED_CROSS_POMMEE CROSS_POMMEE_WITH_HALF-CIRCLE_BELOW CROSS_POMMEE
   NOTCHED_LEFT_SEMICIRCLE_WITH_THREE_DOTS NOTCHED_RIGHT_SEMICIRCLE_WITH_THREE_DOTS SYMBOL_FOR_MARKS_CHAPTER
   WHITE_LATIN_CROSS HEAVY_LATIN_CROSS CELTIC_CROSS OM_SYMBOL DOVE_OF_PEACE KAABA MOSQUE SYNAGOGUE
   MENORAH_WITH_NINE_BRANCHES BOWL_OF_HYGIEIA CLOCK_FACE_ONE_OCLOCK CLOCK_FACE_TWO_OCLOCK
   CLOCK_FACE_THREE_OCLOCK CLOCK_FACE_FOUR_OCLOCK CLOCK_FACE_FIVE_OCLOCK CLOCK_FACE_SIX_OCLOCK
   CLOCK_FACE_SEVEN_OCLOCK CLOCK_FACE_EIGHT_OCLOCK CLOCK_FACE_NINE_OCLOCK CLOCK_FACE_TEN_OCLOCK
   CLOCK_FACE_ELEVEN_OCLOCK CLOCK_FACE_TWELVE_OCLOCK CLOCK_FACE_ONE-THIRTY CLOCK_FACE_TWO-THIRTY
   CLOCK_FACE_THREE-THIRTY CLOCK_FACE_FOUR-THIRTY CLOCK_FACE_FIVE-THIRTY CLOCK_FACE_SIX-THIRTY
   CLOCK_FACE_SEVEN-THIRTY CLOCK_FACE_EIGHT-THIRTY CLOCK_FACE_NINE-THIRTY CLOCK_FACE_TEN-THIRTY
   CLOCK_FACE_ELEVEN-THIRTY CLOCK_FACE_TWELVE-THIRTY RIGHT_SPEAKER RIGHT_SPEAKER_WITH_ONE_SOUND_WAVE
   RIGHT_SPEAKER_WITH_THREE_SOUND_WAVES BULLHORN BULLHORN_WITH_SOUND_WAVES RINGING_BELL BOOK CANDLE
   MANTELPIECE_CLOCK BLACK_SKULL_AND_CROSSBONES NO_PIRACY HOLE MAN_IN_BUSINESS_SUIT_LEVITATING SLEUTH_OR_SPY
   DARK_SUNGLASSES SPIDER SPIDER_WEB JOYSTICK MAN_DANCING LEFT_HAND_TELEPHONE_RECEIVER
   TELEPHONE_RECEIVER_WITH_PAGE RIGHT_HAND_TELEPHONE_RECEIVER WHITE_TOUCHTONE_TELEPHONE
   BLACK_TOUCHTONE_TELEPHONE TELEPHONE_ON_TOP_OF_MODEM CLAMSHELL_MOBILE_PHONE BACK_OF_ENVELOPE
   STAMPED_ENVELOPE ENVELOPE_WITH_LIGHTNING FLYING_ENVELOPE PEN_OVER_STAMPED_ENVELOPE LINKED_PAPERCLIPS
   BLACK_PUSHPIN LOWER_LEFT_PENCIL LOWER_LEFT_BALLPOINT_PEN LOWER_LEFT_FOUNTAIN_PEN LOWER_LEFT_PAINTBRUSH
   LOWER_LEFT_CRAYON LEFT_WRITING_HAND TURNED_OK_HAND_SIGN RAISED_HAND_WITH_FINGERS_SPLAYED
   REVERSED_RAISED_HAND_WITH_FINGERS_SPLAYED REVERSED_THUMBS_UP_SIGN REVERSED_THUMBS_DOWN_SIGN
   REVERSED_VICTORY_HAND REVERSED_HAND_WITH_MIDDLE_FINGER_EXTENDED
   RAISED_HAND_WITH_PART_BETWEEN_MIDDLE_AND_RING_FINGERS WHITE_DOWN_POINTING_LEFT_HAND_INDEX
   SIDEWAYS_WHITE_LEFT_POINTING_INDEX SIDEWAYS_WHITE_RIGHT_POINTING_INDEX SIDEWAYS_BLACK_LEFT_POINTING_INDEX
   SIDEWAYS_BLACK_RIGHT_POINTING_INDEX BLACK_LEFT_POINTING_BACKHAND_INDEX BLACK_RIGHT_POINTING_BACKHAND_INDEX
   SIDEWAYS_WHITE_UP_POINTING_INDEX SIDEWAYS_WHITE_DOWN_POINTING_INDEX SIDEWAYS_BLACK_UP_POINTING_INDEX
   SIDEWAYS_BLACK_DOWN_POINTING_INDEX BLACK_UP_POINTING_BACKHAND_INDEX BLACK_DOWN_POINTING_BACKHAND_INDEX
   BLACK_HEART DESKTOP_COMPUTER KEYBOARD_AND_MOUSE THREE_NETWORKED_COMPUTERS PRINTER POCKET_CALCULATOR
   BLACK_HARD_SHELL_FLOPPY_DISK WHITE_HARD_SHELL_FLOPPY_DISK SOFT_SHELL_FLOPPY_DISK TAPE_CARTRIDGE
   WIRED_KEYBOARD ONE_BUTTON_MOUSE TWO_BUTTON_MOUSE THREE_BUTTON_MOUSE TRACKBALL OLD_PERSONAL_COMPUTER
   HARD_DISK SCREEN PRINTER_ICON FAX_ICON OPTICAL_DISC_ICON DOCUMENT_WITH_TEXT DOCUMENT_WITH_TEXT_AND_PICTURE
   DOCUMENT_WITH_PICTURE FRAME_WITH_PICTURE FRAME_WITH_TILES FRAME_WITH_AN_X BLACK_FOLDER FOLDER OPEN_FOLDER
   CARD_INDEX_DIVIDERS CARD_FILE_BOX FILE_CABINET EMPTY_NOTE EMPTY_NOTE_PAGE EMPTY_NOTE_PAD NOTE NOTE_PAGE
   NOTE_PAD EMPTY_DOCUMENT EMPTY_PAGE EMPTY_PAGES DOCUMENT PAGE PAGES WASTEBASKET SPIRAL_NOTE_PAD
   SPIRAL_CALENDAR_PAD DESKTOP_WINDOW MINIMIZE MAXIMIZE OVERLAP CLOCKWISE_RIGHT_AND_LEFT_SEMICIRCLE_ARROWS
   CANCELLATION_X INCREASE_FONT_SIZE_SYMBOL DECREASE_FONT_SIZE_SYMBOL COMPRESSION OLD_KEY ROLLED-UP_NEWSPAPER
   PAGE_WITH_CIRCLED_TEXT STOCK_CHART DAGGER_KNIFE LIPS SPEAKING_HEAD_IN_SILHOUETTE THREE_RAYS_ABOVE
   THREE_RAYS_BELOW THREE_RAYS_LEFT THREE_RAYS_RIGHT LEFT_SPEECH_BUBBLE RIGHT_SPEECH_BUBBLE
   TWO_SPEECH_BUBBLES THREE_SPEECH_BUBBLES LEFT_THOUGHT_BUBBLE RIGHT_THOUGHT_BUBBLE LEFT_ANGER_BUBBLE
   RIGHT_ANGER_BUBBLE MOOD_BUBBLE LIGHTNING_MOOD_BUBBLE LIGHTNING_MOOD BALLOT_BOX_WITH_BALLOT BALLOT_SCRIPT_X
   BALLOT_BOX_WITH_SCRIPT_X BALLOT_BOLD_SCRIPT_X BALLOT_BOX_WITH_BOLD_SCRIPT_X LIGHT_CHECK_MARK
   BALLOT_BOX_WITH_BOLD_CHECK WORLD_MAP MOUNT_FUJI TOKYO_TOWER STATUE_OF_LIBERTY SILHOUETTE_OF_JAPAN MOYAI
   GRINNING_FACE GRINNING_FACE_WITH_SMILING_EYES FACE_WITH_TEARS_OF_JOY SMILING_FACE_WITH_OPEN_MOUTH
   SMILING_FACE_WITH_OPEN_MOUTH_AND_SMILING_EYES SMILING_FACE_WITH_OPEN_MOUTH_AND_COLD_SWEAT
   SMILING_FACE_WITH_OPEN_MOUTH_AND_TIGHTLY-CLOSED_EYES SMILING_FACE_WITH_HALO SMILING_FACE_WITH_HORNS
   WINKING_FACE SMILING_FACE_WITH_SMILING_EYES FACE_SAVOURING_DELICIOUS_FOOD RELIEVED_FACE
   SMILING_FACE_WITH_HEART-SHAPED_EYES SMILING_FACE_WITH_SUNGLASSES SMIRKING_FACE NEUTRAL_FACE
   EXPRESSIONLESS_FACE UNAMUSED_FACE FACE_WITH_COLD_SWEAT PENSIVE_FACE CONFUSED_FACE CONFOUNDED_FACE
   KISSING_FACE FACE_THROWING_A_KISS KISSING_FACE_WITH_SMILING_EYES KISSING_FACE_WITH_CLOSED_EYES
   FACE_WITH_STUCK-OUT_TONGUE FACE_WITH_STUCK-OUT_TONGUE_AND_WINKING_EYE
   FACE_WITH_STUCK-OUT_TONGUE_AND_TIGHTLY-CLOSED_EYES DISAPPOINTED_FACE WORRIED_FACE ANGRY_FACE POUTING_FACE
   CRYING_FACE PERSEVERING_FACE FACE_WITH_LOOK_OF_TRIUMPH DISAPPOINTED_BUT_RELIEVED_FACE
   FROWNING_FACE_WITH_OPEN_MOUTH ANGUISHED_FACE FEARFUL_FACE WEARY_FACE SLEEPY_FACE TIRED_FACE GRIMACING_FACE
   LOUDLY_CRYING_FACE FACE_WITH_OPEN_MOUTH HUSHED_FACE FACE_WITH_OPEN_MOUTH_AND_COLD_SWEAT
   FACE_SCREAMING_IN_FEAR ASTONISHED_FACE FLUSHED_FACE SLEEPING_FACE DIZZY_FACE FACE_WITHOUT_MOUTH
   FACE_WITH_MEDICAL_MASK GRINNING_CAT_FACE_WITH_SMILING_EYES CAT_FACE_WITH_TEARS_OF_JOY
   SMILING_CAT_FACE_WITH_OPEN_MOUTH SMILING_CAT_FACE_WITH_HEART-SHAPED_EYES CAT_FACE_WITH_WRY_SMILE
   KISSING_CAT_FACE_WITH_CLOSED_EYES POUTING_CAT_FACE CRYING_CAT_FACE WEARY_CAT_FACE SLIGHTLY_FROWNING_FACE
   SLIGHTLY_SMILING_FACE UPSIDE-DOWN_FACE FACE_WITH_ROLLING_EYES FACE_WITH_NO_GOOD_GESTURE
   FACE_WITH_OK_GESTURE PERSON_BOWING_DEEPLY SEE-NO-EVIL_MONKEY HEAR-NO-EVIL_MONKEY SPEAK-NO-EVIL_MONKEY
   HAPPY_PERSON_RAISING_ONE_HAND PERSON_RAISING_BOTH_HANDS_IN_CELEBRATION PERSON_FROWNING
   PERSON_WITH_POUTING_FACE PERSON_WITH_FOLDED_HANDS"

/-- Further names of characters, most of them of controls, which have no other. -/
def characterAliases : String :=
  "0:NULL 0:NUL 1:START_OF_HEADING 1:SOH 2:START_OF_TEXT 2:STX 3:END_OF_TEXT 3:ETX 4:END_OF_TRANSMISSION
   4:EOT 5:ENQUIRY 5:ENQ 6:ACKNOWLEDGE 6:ACK 7:ALERT 7:BEL 8:BACKSPACE 8:BS 9:CHARACTER_TABULATION
   9:HORIZONTAL_TABULATION 9:HT 9:TAB a:LINE_FEED a:NEW_LINE a:END_OF_LINE a:LF a:NL a:EOL b:LINE_TABULATION
   b:VERTICAL_TABULATION b:VT c:FORM_FEED c:FF d:CARRIAGE_RETURN d:CR e:SHIFT_OUT e:LOCKING-SHIFT_ONE e:SO
   f:SHIFT_IN f:LOCKING-SHIFT_ZERO f:SI 10:DATA_LINK_ESCAPE 10:DLE 11:DEVICE_CONTROL_ONE 11:DC1
   12:DEVICE_CONTROL_TWO 12:DC2 13:DEVICE_CONTROL_THREE 13:DC3 14:DEVICE_CONTROL_FOUR 14:DC4
   15:NEGATIVE_ACKNOWLEDGE 15:NAK 16:SYNCHRONOUS_IDLE 16:SYN 17:END_OF_TRANSMISSION_BLOCK 17:ETB 18:CANCEL
   18:CAN 19:END_OF_MEDIUM 19:EOM 1a:SUBSTITUTE 1a:SUB 1b:ESCAPE 1b:ESC 1c:INFORMATION_SEPARATOR_FOUR
   1c:FILE_SEPARATOR 1c:FS 1d:INFORMATION_SEPARATOR_THREE 1d:GROUP_SEPARATOR 1d:GS
   1e:INFORMATION_SEPARATOR_TWO 1e:RECORD_SEPARATOR 1e:RS 1f:INFORMATION_SEPARATOR_ONE 1f:UNIT_SEPARATOR
   1f:US 20:SP 7f:DELETE 7f:DEL 80:PADDING_CHARACTER 80:PAD 81:HIGH_OCTET_PRESET 81:HOP
   82:BREAK_PERMITTED_HERE 82:BPH 83:NO_BREAK_HERE 83:NBH 84:INDEX 84:IND 85:NEXT_LINE 85:NEL
   86:START_OF_SELECTED_AREA 86:SSA 87:END_OF_SELECTED_AREA 87:ESA 88:CHARACTER_TABULATION_SET
   88:HORIZONTAL_TABULATION_SET 88:HTS 89:CHARACTER_TABULATION_WITH_JUSTIFICATION
   89:HORIZONTAL_TABULATION_WITH_JUSTIFICATION 89:HTJ 8a:LINE_TABULATION_SET 8a:VERTICAL_TABULATION_SET
   8a:VTS 8b:PARTIAL_LINE_FORWARD 8b:PARTIAL_LINE_DOWN 8b:PLD 8c:PARTIAL_LINE_BACKWARD 8c:PARTIAL_LINE_UP
   8c:PLU 8d:REVERSE_LINE_FEED 8d:REVERSE_INDEX 8d:RI 8e:SINGLE_SHIFT_TWO 8e:SINGLE-SHIFT-2 8e:SS2
   8f:SINGLE_SHIFT_THREE 8f:SINGLE-SHIFT-3 8f:SS3 90:DEVICE_CONTROL_STRING 90:DCS 91:PRIVATE_USE_ONE
   91:PRIVATE_USE-1 91:PU1 92:PRIVATE_USE_TWO 92:PRIVATE_USE-2 92:PU2 93:SET_TRANSMIT_STATE 93:STS
   94:CANCEL_CHARACTER 94:CCH 95:MESSAGE_WAITING 95:MW 96:START_OF_GUARDED_AREA 96:START_OF_PROTECTED_AREA
   96:SPA 97:END_OF_GUARDED_AREA 97:END_OF_PROTECTED_AREA 97:EPA 98:START_OF_STRING 98:SOS
   99:SINGLE_GRAPHIC_CHARACTER_INTRODUCER 99:SGC 9a:SINGLE_CHARACTER_INTRODUCER 9a:SCI
   9b:CONTROL_SEQUENCE_INTRODUCER 9b:CSI 9c:STRING_TERMINATOR 9c:ST 9d:OPERATING_SYSTEM_COMMAND 9d:OSC
   9e:PRIVACY_MESSAGE 9e:PM 9f:APPLICATION_PROGRAM_COMMAND 9f:APC a0:NBSP ad:SHY 34f:CGJ 200b:ZWSP 200c:ZWNJ
   200d:ZWJ 200e:LRM 200f:RLM 202a:LRE 202b:RLE 202c:PDF 202d:LRO 202e:RLO 202f:NNBSP 205f:MMSP 2060:WJ
   2066:LRI 2067:RLI 2068:FSI 2069:PDI 2118:WEIERSTRASS_ELLIPTIC_FUNCTION feff:BYTE_ORDER_MARK feff:BOM
   feff:ZWNBSP"

/-- Looks for a name among the fields of such a table; `next` is the character that comes next. -/
def findName (name : List Char) : (next : Nat) → List String → Option Nat
  | _, [] => none
  | next, field :: fields =>
    let (n, spelled) := match field.toList.span (· ≠ ':') with
      | (digits, ':' :: spelled) => (readHex digits, spelled)
      | (spelled, _) => (next, spelled)
    if spelled = name then some n else findName name (n + 1) fields

/-! ## Names by rule -/

/-- The romanised letters of Hangul syllables: leads, vowels and tails. -/
def hangulLeads : List String :=
  ["G", "GG", "N", "D", "DD", "R", "M", "B", "BB", "S", "SS", "", "J", "JJ", "C", "K", "T", "P", "H"]

@[inherit_doc hangulLeads]
def hangulVowels : List String :=
  ["A", "AE", "YA", "YAE", "EO", "E", "YEO", "YE", "O", "WA", "WAE", "OE", "YO", "U", "WEO", "WE",
   "WI", "YU", "EU", "YI", "I"]

@[inherit_doc hangulLeads]
def hangulTails : List String :=
  ["", "G", "GG", "GS", "N", "NJ", "NH", "D", "L", "LG", "LM", "LB", "LS", "LT", "LP", "LH", "M",
   "B", "BS", "S", "SS", "NG", "J", "C", "K", "T", "P", "H"]

/-- The name of a Hangul syllable by its place among all of them. -/
def hangulName (s : Nat) : String :=
  "HANGUL SYLLABLE " ++ (hangulLeads[s / 588]?).getD "" ++ (hangulVowels[s % 588 / 28]?).getD "" ++
    (hangulTails[s % 28]?).getD ""

/-- The blocks of ideographs that have their code points for names. -/
def isIdeograph (n : Nat) : Bool :=
  [(0x3400, 0x4DBF), (0x4E00, 0x9FFF), (0x20000, 0x2A6DF), (0x2A700, 0x2B738), (0x2B740, 0x2B81D),
   (0x2B820, 0x2CEA1), (0x2CEB0, 0x2EBE0), (0x30000, 0x3134A)].any
    fun (first, last) => first ≤ n && n ≤ last

/-- The ideograph or the Hangul syllable of a name, which is told in capital letters. -/
def characterByRule? (name : String) : Option Nat :=
  match name.dropPrefix? "CJK UNIFIED IDEOGRAPH-" with
  | some digits =>
    let cs := digits.toString.toList
    let n := readHex (cs.map Char.toLower)
    if (cs.length = 4 ∨ cs.length = 5) ∧ cs.all (fun c => c.isDigit || 'A' ≤ c && c ≤ 'F') ∧
        isIdeograph n then some n
    else none
  | none => ((List.range 11172).find? (hangulName · = name)).map (hangulBase + ·)

/-! ## Looking names up -/

/-- The character of a name. Names from tables may be told in small letters. -/
def characterOfName? (name : String) : Option Char :=
  let spelled := name.toList.map fun c => if c = ' ' then '_' else c.toUpper
  let listed (table : String) : Option Nat :=
    if name.toList.contains '_' then none else findName spelled 0 (tableFields table)
  let ruled : Option Nat :=
    if name.startsWith "CJK" || name.startsWith "HANGUL" then characterByRule? name else none
  (ruled.orElse fun _ => (listed characterNames).orElse fun _ => listed characterAliases).map Char.ofNat

end Pseudonym.Text
