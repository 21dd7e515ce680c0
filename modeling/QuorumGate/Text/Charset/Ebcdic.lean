/-!
# EBCDIC

The code pages of mainframes, which share nothing with ASCII.

A table has the 128 characters from byte 80 on, or all 256, and U+FFFD where nothing is
assigned.
-/

namespace QuorumGate.Text.Ebcdic

def codePage037 : String :=
  "\x00\x01\x02\x03\u009c\x09\u0086\x7f\u0097\u008d\u008e\x0b\x0c\x0d\x0e\x0f\x10\x11\x12\x13" ++
  "\u009d\u0085\x08\u0087\x18\x19\u0092\u008f\x1c\x1d\x1e\x1f\u0080\u0081\u0082\u0083\u0084" ++
  "\x0a\x17\x1b\u0088\u0089\u008a\u008b\u008c\x05\x06\x07\u0090\u0091\x16\u0093\u0094\u0095" ++
  "\u0096\x04\u0098\u0099\u009a\u009b\x14\x15\u009e\x1a\x20\u00a0âäàáãåçñ¢\x2e\x3c\x28\x2b" ++
  "\x7c\x26éêëèíîïìß\x21\x24\x2a\x29\x3b¬\x2d\x2fÂÄÀÁÃÅÇÑ¦\x2c\x25\x5f\x3e\x3føÉÊËÈÍÎÏÌ\x60" ++
  "\x3a\x23\x40\x27\x3d\x22Øabcdefghi«»ðýþ±°jklmnopqrªºæ\u00b8Æ¤µ\x7estuvwxyz¡¿ÐÝÞ®\x5e£¥·©§¶" ++
  "¼½¾\x5b\x5d\u00af\u00a8\u00b4×\x7bABCDEFGHI\u00adôöòóõ\x7dJKLMNOPQR¹ûüùúÿ\x5c÷STUVWXYZ²ÔÖÒ" ++
  "ÓÕ0123456789³ÛÜÙÚ\u009f"

def codePage273 : String :=
  "\x00\x01\x02\x03\u009c\x09\u0086\x7f\u0097\u008d\u008e\x0b\x0c\x0d\x0e\x0f\x10\x11\x12\x13" ++
  "\u009d\u0085\x08\u0087\x18\x19\u0092\u008f\x1c\x1d\x1e\x1f\u0080\u0081\u0082\u0083\u0084" ++
  "\x0a\x17\x1b\u0088\u0089\u008a\u008b\u008c\x05\x06\x07\u0090\u0091\x16\u0093\u0094\u0095" ++
  "\u0096\x04\u0098\u0099\u009a\u009b\x14\x15\u009e\x1a\x20\u00a0â\x7bàáãåçñÄ\x2e\x3c\x28\x2b" ++
  "\x21\x26éêëèíîïì\x7eÜ\x24\x2a\x29\x3b\x5e\x2d\x2fÂ\x5bÀÁÃÅÇÑö\x2c\x25\x5f\x3e\x3føÉÊËÈÍÎÏÌ" ++
  "\x60\x3a\x23§\x27\x3d\x22Øabcdefghi«»ðýþ±°jklmnopqrªºæ\u00b8Æ¤µßstuvwxyz¡¿ÐÝÞ®¢£¥·©\x40¶¼½" ++
  "¾¬\x7c‾\u00a8\u00b4×äABCDEFGHI\u00adô¦òóõüJKLMNOPQR¹û\x7dùúÿÖ÷STUVWXYZ²Ô\x5cÒÓÕ0123456789³" ++
  "Û\x5dÙÚ\u009f"

def codePage424 : String :=
  "\x00\x01\x02\x03\u009c\x09\u0086\x7f\u0097\u008d\u008e\x0b\x0c\x0d\x0e\x0f\x10\x11\x12\x13" ++
  "\u009d\u0085\x08\u0087\x18\x19\u0092\u008f\x1c\x1d\x1e\x1f\u0080\u0081\u0082\u0083\u0084" ++
  "\x0a\x17\x1b\u0088\u0089\u008a\u008b\u008c\x05\x06\x07\u0090\u0091\x16\u0093\u0094\u0095" ++
  "\u0096\x04\u0098\u0099\u009a\u009b\x14\x15\u009e\x1a\x20\u05d0\u05d1\u05d2\u05d3\u05d4" ++
  "\u05d5\u05d6\u05d7\u05d8¢\x2e\x3c\x28\x2b\x7c\x26\u05d9\u05da\u05db\u05dc\u05dd\u05de" ++
  "\u05df\u05e0\u05e1\x21\x24\x2a\x29\x3b¬\x2d\x2f\u05e2\u05e3\u05e4\u05e5\u05e6\u05e7\u05e8" ++
  "\u05e9¦\x2c\x25\x5f\x3e\x3f\ufffd\u05ea\ufffd\ufffd\u00a0\ufffd\ufffd\ufffd‗\x60\x3a\x23" ++
  "\x40\x27\x3d\x22\ufffdabcdefghi«»\ufffd\ufffd\ufffd±°jklmnopqr\ufffd\ufffd\ufffd\u00b8" ++
  "\ufffd¤µ\x7estuvwxyz\ufffd\ufffd\ufffd\ufffd\ufffd®\x5e£¥·©§¶¼½¾\x5b\x5d\u00af\u00a8\u00b4" ++
  "×\x7bABCDEFGHI\u00ad\ufffd\ufffd\ufffd\ufffd\ufffd\x7dJKLMNOPQR¹\ufffd\ufffd\ufffd\ufffd" ++
  "\ufffd\x5c÷STUVWXYZ²\ufffd\ufffd\ufffd\ufffd\ufffd0123456789³\ufffd\ufffd\ufffd\ufffd" ++
  "\u009f"

def codePage500 : String :=
  "\x00\x01\x02\x03\u009c\x09\u0086\x7f\u0097\u008d\u008e\x0b\x0c\x0d\x0e\x0f\x10\x11\x12\x13" ++
  "\u009d\u0085\x08\u0087\x18\x19\u0092\u008f\x1c\x1d\x1e\x1f\u0080\u0081\u0082\u0083\u0084" ++
  "\x0a\x17\x1b\u0088\u0089\u008a\u008b\u008c\x05\x06\x07\u0090\u0091\x16\u0093\u0094\u0095" ++
  "\u0096\x04\u0098\u0099\u009a\u009b\x14\x15\u009e\x1a\x20\u00a0âäàáãåçñ\x5b\x2e\x3c\x28\x2b" ++
  "\x21\x26éêëèíîïìß\x5d\x24\x2a\x29\x3b\x5e\x2d\x2fÂÄÀÁÃÅÇÑ¦\x2c\x25\x5f\x3e\x3føÉÊËÈÍÎÏÌ" ++
  "\x60\x3a\x23\x40\x27\x3d\x22Øabcdefghi«»ðýþ±°jklmnopqrªºæ\u00b8Æ¤µ\x7estuvwxyz¡¿ÐÝÞ®¢£¥·©§" ++
  "¶¼½¾¬\x7c\u00af\u00a8\u00b4×\x7bABCDEFGHI\u00adôöòóõ\x7dJKLMNOPQR¹ûüùúÿ\x5c÷STUVWXYZ²ÔÖÒÓÕ" ++
  "0123456789³ÛÜÙÚ\u009f"

def codePage875 : String :=
  "\x00\x01\x02\x03\u009c\x09\u0086\x7f\u0097\u008d\u008e\x0b\x0c\x0d\x0e\x0f\x10\x11\x12\x13" ++
  "\u009d\u0085\x08\u0087\x18\x19\u0092\u008f\x1c\x1d\x1e\x1f\u0080\u0081\u0082\u0083\u0084" ++
  "\x0a\x17\x1b\u0088\u0089\u008a\u008b\u008c\x05\x06\x07\u0090\u0091\x16\u0093\u0094\u0095" ++
  "\u0096\x04\u0098\u0099\u009a\u009b\x14\x15\u009e\x1a\x20ΑΒΓΔΕΖΗΘΙ\x5b\x2e\x3c\x28\x2b\x21" ++
  "\x26ΚΛΜΝΞΟΠΡΣ\x5d\x24\x2a\x29\x3b\x5e\x2d\x2fΤΥΦΧΨΩΪΫ\x7c\x2c\x25\x5f\x3e\x3f\u00a8ΆΈΉ" ++
  "\u00a0ΊΌΎΏ\x60\x3a\x23\x40\x27\x3d\x22\u0385abcdefghiαβγδεζ°jklmnopqrηθικλμ\u00b4\x7estuvw" ++
  "xyzνξοπρσ£άέήϊίόύϋώςτυφχψ\x7bABCDEFGHI\u00adωΐΰ‘―\x7dJKLMNOPQR±½\x1a·’¦\x5c\x1aSTUVWXYZ²§" ++
  "\x1a\x1a«¬0123456789³©\x1a\x1a»\u009f"

def codePage1026 : String :=
  "\x00\x01\x02\x03\u009c\x09\u0086\x7f\u0097\u008d\u008e\x0b\x0c\x0d\x0e\x0f\x10\x11\x12\x13" ++
  "\u009d\u0085\x08\u0087\x18\x19\u0092\u008f\x1c\x1d\x1e\x1f\u0080\u0081\u0082\u0083\u0084" ++
  "\x0a\x17\x1b\u0088\u0089\u008a\u008b\u008c\x05\x06\x07\u0090\u0091\x16\u0093\u0094\u0095" ++
  "\u0096\x04\u0098\u0099\u009a\u009b\x14\x15\u009e\x1a\x20\u00a0âäàáãå\x7bñÇ\x2e\x3c\x28\x2b" ++
  "\x21\x26éêëèíîïìßĞİ\x2a\x29\x3b\x5e\x2d\x2fÂÄÀÁÃÅ\x5bÑş\x2c\x25\x5f\x3e\x3føÉÊËÈÍÎÏÌı\x3aÖ" ++
  "Ş\x27\x3dÜØabcdefghi«»\x7d\x60¦±°jklmnopqrªºæ\u00b8Æ¤µöstuvwxyz¡¿\x5d\x24\x40®¢£¥·©§¶¼½¾¬" ++
  "\x7c\u00af\u00a8\u00b4×çABCDEFGHI\u00adô\x7eòóõğJKLMNOPQR¹û\x5cùúÿü÷STUVWXYZ²Ô\x23ÒÓÕ01234" ++
  "56789³Û\x22ÙÚ\u009f"

def codePage1140 : String :=
  "\x00\x01\x02\x03\u009c\x09\u0086\x7f\u0097\u008d\u008e\x0b\x0c\x0d\x0e\x0f\x10\x11\x12\x13" ++
  "\u009d\u0085\x08\u0087\x18\x19\u0092\u008f\x1c\x1d\x1e\x1f\u0080\u0081\u0082\u0083\u0084" ++
  "\x0a\x17\x1b\u0088\u0089\u008a\u008b\u008c\x05\x06\x07\u0090\u0091\x16\u0093\u0094\u0095" ++
  "\u0096\x04\u0098\u0099\u009a\u009b\x14\x15\u009e\x1a\x20\u00a0âäàáãåçñ¢\x2e\x3c\x28\x2b" ++
  "\x7c\x26éêëèíîïìß\x21\x24\x2a\x29\x3b¬\x2d\x2fÂÄÀÁÃÅÇÑ¦\x2c\x25\x5f\x3e\x3føÉÊËÈÍÎÏÌ\x60" ++
  "\x3a\x23\x40\x27\x3d\x22Øabcdefghi«»ðýþ±°jklmnopqrªºæ\u00b8Æ€µ\x7estuvwxyz¡¿ÐÝÞ®\x5e£¥·©§¶" ++
  "¼½¾\x5b\x5d\u00af\u00a8\u00b4×\x7bABCDEFGHI\u00adôöòóõ\x7dJKLMNOPQR¹ûüùúÿ\x5c÷STUVWXYZ²ÔÖÒ" ++
  "ÓÕ0123456789³ÛÜÙÚ\u009f"

end QuorumGate.Text.Ebcdic
