set_option autoImplicit false

namespace TimeReports.Text

private def compositions1 : List (Nat × Nat × Nat) := [
  (192, 65, 768), (193, 65, 769), (194, 65, 770), (195, 65, 771), (196, 65, 776), (197, 65,
  778), (199, 67, 807), (200, 69, 768), (201, 69, 769), (202, 69, 770), (203, 69, 776), (204,
  73, 768), (205, 73, 769), (206, 73, 770), (207, 73, 776), (209, 78, 771), (210, 79, 768),
  (211, 79, 769), (212, 79, 770), (213, 79, 771), (214, 79, 776), (217, 85, 768), (218, 85,
  769), (219, 85, 770), (220, 85, 776), (221, 89, 769), (224, 97, 768), (225, 97, 769), (226,
  97, 770), (227, 97, 771), (228, 97, 776), (229, 97, 778), (231, 99, 807), (232, 101, 768),
  (233, 101, 769), (234, 101, 770), (235, 101, 776), (236, 105, 768), (237, 105, 769), (238,
  105, 770), (239, 105, 776), (241, 110, 771), (242, 111, 768), (243, 111, 769), (244, 111,
  770), (245, 111, 771), (246, 111, 776), (249, 117, 768), (250, 117, 769), (251, 117, 770),
  (252, 117, 776), (253, 121, 769), (255, 121, 776), (256, 65, 772), (257, 97, 772), (258, 65,
  774), (259, 97, 774), (260, 65, 808), (261, 97, 808), (262, 67, 769), (263, 99, 769), (264,
  67, 770), (265, 99, 770), (266, 67, 775), (267, 99, 775), (268, 67, 780), (269, 99, 780),
  (270, 68, 780), (271, 100, 780), (274, 69, 772), (275, 101, 772), (276, 69, 774), (277, 101,
  774), (278, 69, 775), (279, 101, 775), (280, 69, 808), (281, 101, 808), (282, 69, 780), (283,
  101, 780), (284, 71, 770), (285, 103, 770), (286, 71, 774), (287, 103, 774), (288, 71, 775),
  (289, 103, 775), (290, 71, 807), (291, 103, 807), (292, 72, 770), (293, 104, 770), (296, 73,
  771), (297, 105, 771), (298, 73, 772), (299, 105, 772), (300, 73, 774), (301, 105, 774), (302,
  73, 808), (303, 105, 808), (304, 73, 775), (308, 74, 770), (309, 106, 770), (310, 75, 807),
  (311, 107, 807), (313, 76, 769), (314, 108, 769), (315, 76, 807), (316, 108, 807), (317, 76,
  780), (318, 108, 780), (323, 78, 769), (324, 110, 769), (325, 78, 807), (326, 110, 807), (327,
  78, 780), (328, 110, 780), (332, 79, 772), (333, 111, 772), (334, 79, 774), (335, 111, 774),
  (336, 79, 779), (337, 111, 779), (340, 82, 769), (341, 114, 769), (342, 82, 807), (343, 114,
  807), (344, 82, 780), (345, 114, 780), (346, 83, 769), (347, 115, 769), (348, 83, 770), (349,
  115, 770)]

private def compositions2 : List (Nat × Nat × Nat) := [
  (350, 83, 807), (351, 115, 807), (352, 83, 780), (353, 115, 780), (354, 84, 807), (355, 116,
  807), (356, 84, 780), (357, 116, 780), (360, 85, 771), (361, 117, 771), (362, 85, 772), (363,
  117, 772), (364, 85, 774), (365, 117, 774), (366, 85, 778), (367, 117, 778), (368, 85, 779),
  (369, 117, 779), (370, 85, 808), (371, 117, 808), (372, 87, 770), (373, 119, 770), (374, 89,
  770), (375, 121, 770), (376, 89, 776), (377, 90, 769), (378, 122, 769), (379, 90, 775), (380,
  122, 775), (381, 90, 780), (382, 122, 780), (416, 79, 795), (417, 111, 795), (431, 85, 795),
  (432, 117, 795), (461, 65, 780), (462, 97, 780), (463, 73, 780), (464, 105, 780), (465, 79,
  780), (466, 111, 780), (467, 85, 780), (468, 117, 780), (469, 220, 772), (470, 252, 772),
  (471, 220, 769), (472, 252, 769), (473, 220, 780), (474, 252, 780), (475, 220, 768), (476,
  252, 768), (478, 196, 772), (479, 228, 772), (480, 550, 772), (481, 551, 772), (482, 198,
  772), (483, 230, 772), (486, 71, 780), (487, 103, 780), (488, 75, 780), (489, 107, 780), (490,
  79, 808), (491, 111, 808), (492, 490, 772), (493, 491, 772), (494, 439, 780), (495, 658, 780),
  (496, 106, 780), (500, 71, 769), (501, 103, 769), (504, 78, 768), (505, 110, 768), (506, 197,
  769), (507, 229, 769), (508, 198, 769), (509, 230, 769), (510, 216, 769), (511, 248, 769),
  (512, 65, 783), (513, 97, 783), (514, 65, 785), (515, 97, 785), (516, 69, 783), (517, 101,
  783), (518, 69, 785), (519, 101, 785), (520, 73, 783), (521, 105, 783), (522, 73, 785), (523,
  105, 785), (524, 79, 783), (525, 111, 783), (526, 79, 785), (527, 111, 785), (528, 82, 783),
  (529, 114, 783), (530, 82, 785), (531, 114, 785), (532, 85, 783), (533, 117, 783), (534, 85,
  785), (535, 117, 785), (536, 83, 806), (537, 115, 806), (538, 84, 806), (539, 116, 806), (542,
  72, 780), (543, 104, 780), (550, 65, 775), (551, 97, 775), (552, 69, 807), (553, 101, 807),
  (554, 214, 772), (555, 246, 772), (556, 213, 772), (557, 245, 772), (558, 79, 775), (559, 111,
  775), (560, 558, 772), (561, 559, 772), (562, 89, 772), (563, 121, 772), (901, 168, 769),
  (902, 913, 769), (904, 917, 769), (905, 919, 769), (906, 921, 769), (908, 927, 769), (910,
  933, 769), (911, 937, 769)]

private def compositions3 : List (Nat × Nat × Nat) := [
  (912, 970, 769), (938, 921, 776), (939, 933, 776), (940, 945, 769), (941, 949, 769), (942,
  951, 769), (943, 953, 769), (944, 971, 769), (970, 953, 776), (971, 965, 776), (972, 959,
  769), (973, 965, 769), (974, 969, 769), (979, 978, 769), (980, 978, 776), (1024, 1045, 768),
  (1025, 1045, 776), (1027, 1043, 769), (1031, 1030, 776), (1036, 1050, 769), (1037, 1048, 768),
  (1038, 1059, 774), (1049, 1048, 774), (1081, 1080, 774), (1104, 1077, 768), (1105, 1077, 776),
  (1107, 1075, 769), (1111, 1110, 776), (1116, 1082, 769), (1117, 1080, 768), (1118, 1091, 774),
  (1142, 1140, 783), (1143, 1141, 783), (1217, 1046, 774), (1218, 1078, 774), (1232, 1040, 774),
  (1233, 1072, 774), (1234, 1040, 776), (1235, 1072, 776), (1238, 1045, 774), (1239, 1077, 774),
  (1242, 1240, 776), (1243, 1241, 776), (1244, 1046, 776), (1245, 1078, 776), (1246, 1047, 776),
  (1247, 1079, 776), (1250, 1048, 772), (1251, 1080, 772), (1252, 1048, 776), (1253, 1080, 776),
  (1254, 1054, 776), (1255, 1086, 776), (1258, 1256, 776), (1259, 1257, 776), (1260, 1069, 776),
  (1261, 1101, 776), (1262, 1059, 772), (1263, 1091, 772), (1264, 1059, 776), (1265, 1091, 776),
  (1266, 1059, 779), (1267, 1091, 779), (1268, 1063, 776), (1269, 1095, 776), (1272, 1067, 776),
  (1273, 1099, 776), (1570, 1575, 1619), (1571, 1575, 1620), (1572, 1608, 1620), (1573, 1575,
  1621), (1574, 1610, 1620), (1728, 1749, 1620), (1730, 1729, 1620), (1747, 1746, 1620), (2345,
  2344, 2364), (2353, 2352, 2364), (2356, 2355, 2364), (2507, 2503, 2494), (2508, 2503, 2519),
  (2888, 2887, 2902), (2891, 2887, 2878), (2892, 2887, 2903), (2964, 2962, 3031), (3018, 3014,
  3006), (3019, 3015, 3006), (3020, 3014, 3031), (3144, 3142, 3158), (3264, 3263, 3285), (3271,
  3270, 3285), (3272, 3270, 3286), (3274, 3270, 3266), (3275, 3274, 3285), (3402, 3398, 3390),
  (3403, 3399, 3390), (3404, 3398, 3415), (3546, 3545, 3530), (3548, 3545, 3535), (3549, 3548,
  3530), (3550, 3545, 3551), (4134, 4133, 4142), (6918, 6917, 6965), (6920, 6919, 6965), (6922,
  6921, 6965), (6924, 6923, 6965), (6926, 6925, 6965), (6930, 6929, 6965), (6971, 6970, 6965),
  (6973, 6972, 6965), (6976, 6974, 6965), (6977, 6975, 6965), (6979, 6978, 6965), (7680, 65,
  805), (7681, 97, 805), (7682, 66, 775), (7683, 98, 775), (7684, 66, 803), (7685, 98, 803),
  (7686, 66, 817), (7687, 98, 817), (7688, 199, 769), (7689, 231, 769), (7690, 68, 775), (7691,
  100, 775), (7692, 68, 803), (7693, 100, 803), (7694, 68, 817), (7695, 100, 817), (7696, 68,
  807), (7697, 100, 807)]

private def compositions4 : List (Nat × Nat × Nat) := [
  (7698, 68, 813), (7699, 100, 813), (7700, 274, 768), (7701, 275, 768), (7702, 274, 769),
  (7703, 275, 769), (7704, 69, 813), (7705, 101, 813), (7706, 69, 816), (7707, 101, 816), (7708,
  552, 774), (7709, 553, 774), (7710, 70, 775), (7711, 102, 775), (7712, 71, 772), (7713, 103,
  772), (7714, 72, 775), (7715, 104, 775), (7716, 72, 803), (7717, 104, 803), (7718, 72, 776),
  (7719, 104, 776), (7720, 72, 807), (7721, 104, 807), (7722, 72, 814), (7723, 104, 814), (7724,
  73, 816), (7725, 105, 816), (7726, 207, 769), (7727, 239, 769), (7728, 75, 769), (7729, 107,
  769), (7730, 75, 803), (7731, 107, 803), (7732, 75, 817), (7733, 107, 817), (7734, 76, 803),
  (7735, 108, 803), (7736, 7734, 772), (7737, 7735, 772), (7738, 76, 817), (7739, 108, 817),
  (7740, 76, 813), (7741, 108, 813), (7742, 77, 769), (7743, 109, 769), (7744, 77, 775), (7745,
  109, 775), (7746, 77, 803), (7747, 109, 803), (7748, 78, 775), (7749, 110, 775), (7750, 78,
  803), (7751, 110, 803), (7752, 78, 817), (7753, 110, 817), (7754, 78, 813), (7755, 110, 813),
  (7756, 213, 769), (7757, 245, 769), (7758, 213, 776), (7759, 245, 776), (7760, 332, 768),
  (7761, 333, 768), (7762, 332, 769), (7763, 333, 769), (7764, 80, 769), (7765, 112, 769),
  (7766, 80, 775), (7767, 112, 775), (7768, 82, 775), (7769, 114, 775), (7770, 82, 803), (7771,
  114, 803), (7772, 7770, 772), (7773, 7771, 772), (7774, 82, 817), (7775, 114, 817), (7776, 83,
  775), (7777, 115, 775), (7778, 83, 803), (7779, 115, 803), (7780, 346, 775), (7781, 347, 775),
  (7782, 352, 775), (7783, 353, 775), (7784, 7778, 775), (7785, 7779, 775), (7786, 84, 775),
  (7787, 116, 775), (7788, 84, 803), (7789, 116, 803), (7790, 84, 817), (7791, 116, 817), (7792,
  84, 813), (7793, 116, 813), (7794, 85, 804), (7795, 117, 804), (7796, 85, 816), (7797, 117,
  816), (7798, 85, 813), (7799, 117, 813), (7800, 360, 769), (7801, 361, 769), (7802, 362, 776),
  (7803, 363, 776), (7804, 86, 771), (7805, 118, 771), (7806, 86, 803), (7807, 118, 803), (7808,
  87, 768), (7809, 119, 768), (7810, 87, 769), (7811, 119, 769), (7812, 87, 776), (7813, 119,
  776), (7814, 87, 775), (7815, 119, 775), (7816, 87, 803), (7817, 119, 803), (7818, 88, 775),
  (7819, 120, 775), (7820, 88, 776), (7821, 120, 776), (7822, 89, 775), (7823, 121, 775), (7824,
  90, 770), (7825, 122, 770), (7826, 90, 803), (7827, 122, 803)]

private def compositions5 : List (Nat × Nat × Nat) := [
  (7828, 90, 817), (7829, 122, 817), (7830, 104, 817), (7831, 116, 776), (7832, 119, 778),
  (7833, 121, 778), (7835, 383, 775), (7840, 65, 803), (7841, 97, 803), (7842, 65, 777), (7843,
  97, 777), (7844, 194, 769), (7845, 226, 769), (7846, 194, 768), (7847, 226, 768), (7848, 194,
  777), (7849, 226, 777), (7850, 194, 771), (7851, 226, 771), (7852, 7840, 770), (7853, 7841,
  770), (7854, 258, 769), (7855, 259, 769), (7856, 258, 768), (7857, 259, 768), (7858, 258,
  777), (7859, 259, 777), (7860, 258, 771), (7861, 259, 771), (7862, 7840, 774), (7863, 7841,
  774), (7864, 69, 803), (7865, 101, 803), (7866, 69, 777), (7867, 101, 777), (7868, 69, 771),
  (7869, 101, 771), (7870, 202, 769), (7871, 234, 769), (7872, 202, 768), (7873, 234, 768),
  (7874, 202, 777), (7875, 234, 777), (7876, 202, 771), (7877, 234, 771), (7878, 7864, 770),
  (7879, 7865, 770), (7880, 73, 777), (7881, 105, 777), (7882, 73, 803), (7883, 105, 803),
  (7884, 79, 803), (7885, 111, 803), (7886, 79, 777), (7887, 111, 777), (7888, 212, 769), (7889,
  244, 769), (7890, 212, 768), (7891, 244, 768), (7892, 212, 777), (7893, 244, 777), (7894, 212,
  771), (7895, 244, 771), (7896, 7884, 770), (7897, 7885, 770), (7898, 416, 769), (7899, 417,
  769), (7900, 416, 768), (7901, 417, 768), (7902, 416, 777), (7903, 417, 777), (7904, 416,
  771), (7905, 417, 771), (7906, 416, 803), (7907, 417, 803), (7908, 85, 803), (7909, 117, 803),
  (7910, 85, 777), (7911, 117, 777), (7912, 431, 769), (7913, 432, 769), (7914, 431, 768),
  (7915, 432, 768), (7916, 431, 777), (7917, 432, 777), (7918, 431, 771), (7919, 432, 771),
  (7920, 431, 803), (7921, 432, 803), (7922, 89, 768), (7923, 121, 768), (7924, 89, 803), (7925,
  121, 803), (7926, 89, 777), (7927, 121, 777), (7928, 89, 771), (7929, 121, 771), (7936, 945,
  787), (7937, 945, 788), (7938, 7936, 768), (7939, 7937, 768), (7940, 7936, 769), (7941, 7937,
  769), (7942, 7936, 834), (7943, 7937, 834), (7944, 913, 787), (7945, 913, 788), (7946, 7944,
  768), (7947, 7945, 768), (7948, 7944, 769), (7949, 7945, 769), (7950, 7944, 834), (7951, 7945,
  834), (7952, 949, 787), (7953, 949, 788), (7954, 7952, 768), (7955, 7953, 768), (7956, 7952,
  769), (7957, 7953, 769), (7960, 917, 787), (7961, 917, 788), (7962, 7960, 768), (7963, 7961,
  768), (7964, 7960, 769), (7965, 7961, 769), (7968, 951, 787), (7969, 951, 788), (7970, 7968,
  768), (7971, 7969, 768), (7972, 7968, 769)]

private def compositions6 : List (Nat × Nat × Nat) := [
  (7973, 7969, 769), (7974, 7968, 834), (7975, 7969, 834), (7976, 919, 787), (7977, 919, 788),
  (7978, 7976, 768), (7979, 7977, 768), (7980, 7976, 769), (7981, 7977, 769), (7982, 7976, 834),
  (7983, 7977, 834), (7984, 953, 787), (7985, 953, 788), (7986, 7984, 768), (7987, 7985, 768),
  (7988, 7984, 769), (7989, 7985, 769), (7990, 7984, 834), (7991, 7985, 834), (7992, 921, 787),
  (7993, 921, 788), (7994, 7992, 768), (7995, 7993, 768), (7996, 7992, 769), (7997, 7993, 769),
  (7998, 7992, 834), (7999, 7993, 834), (8000, 959, 787), (8001, 959, 788), (8002, 8000, 768),
  (8003, 8001, 768), (8004, 8000, 769), (8005, 8001, 769), (8008, 927, 787), (8009, 927, 788),
  (8010, 8008, 768), (8011, 8009, 768), (8012, 8008, 769), (8013, 8009, 769), (8016, 965, 787),
  (8017, 965, 788), (8018, 8016, 768), (8019, 8017, 768), (8020, 8016, 769), (8021, 8017, 769),
  (8022, 8016, 834), (8023, 8017, 834), (8025, 933, 788), (8027, 8025, 768), (8029, 8025, 769),
  (8031, 8025, 834), (8032, 969, 787), (8033, 969, 788), (8034, 8032, 768), (8035, 8033, 768),
  (8036, 8032, 769), (8037, 8033, 769), (8038, 8032, 834), (8039, 8033, 834), (8040, 937, 787),
  (8041, 937, 788), (8042, 8040, 768), (8043, 8041, 768), (8044, 8040, 769), (8045, 8041, 769),
  (8046, 8040, 834), (8047, 8041, 834), (8048, 945, 768), (8050, 949, 768), (8052, 951, 768),
  (8054, 953, 768), (8056, 959, 768), (8058, 965, 768), (8060, 969, 768), (8064, 7936, 837),
  (8065, 7937, 837), (8066, 7938, 837), (8067, 7939, 837), (8068, 7940, 837), (8069, 7941, 837),
  (8070, 7942, 837), (8071, 7943, 837), (8072, 7944, 837), (8073, 7945, 837), (8074, 7946, 837),
  (8075, 7947, 837), (8076, 7948, 837), (8077, 7949, 837), (8078, 7950, 837), (8079, 7951, 837),
  (8080, 7968, 837), (8081, 7969, 837), (8082, 7970, 837), (8083, 7971, 837), (8084, 7972, 837),
  (8085, 7973, 837), (8086, 7974, 837), (8087, 7975, 837), (8088, 7976, 837), (8089, 7977, 837),
  (8090, 7978, 837), (8091, 7979, 837), (8092, 7980, 837), (8093, 7981, 837), (8094, 7982, 837),
  (8095, 7983, 837), (8096, 8032, 837), (8097, 8033, 837), (8098, 8034, 837), (8099, 8035, 837),
  (8100, 8036, 837), (8101, 8037, 837), (8102, 8038, 837), (8103, 8039, 837), (8104, 8040, 837),
  (8105, 8041, 837), (8106, 8042, 837), (8107, 8043, 837), (8108, 8044, 837), (8109, 8045, 837),
  (8110, 8046, 837), (8111, 8047, 837), (8112, 945, 774), (8113, 945, 772), (8114, 8048, 837),
  (8115, 945, 837), (8116, 940, 837), (8118, 945, 834), (8119, 8118, 837), (8120, 913, 774)]

private def compositions7 : List (Nat × Nat × Nat) := [
  (8121, 913, 772), (8122, 913, 768), (8124, 913, 837), (8129, 168, 834), (8130, 8052, 837),
  (8131, 951, 837), (8132, 942, 837), (8134, 951, 834), (8135, 8134, 837), (8136, 917, 768),
  (8138, 919, 768), (8140, 919, 837), (8141, 8127, 768), (8142, 8127, 769), (8143, 8127, 834),
  (8144, 953, 774), (8145, 953, 772), (8146, 970, 768), (8150, 953, 834), (8151, 970, 834),
  (8152, 921, 774), (8153, 921, 772), (8154, 921, 768), (8157, 8190, 768), (8158, 8190, 769),
  (8159, 8190, 834), (8160, 965, 774), (8161, 965, 772), (8162, 971, 768), (8164, 961, 787),
  (8165, 961, 788), (8166, 965, 834), (8167, 971, 834), (8168, 933, 774), (8169, 933, 772),
  (8170, 933, 768), (8172, 929, 788), (8173, 168, 768), (8178, 8060, 837), (8179, 969, 837),
  (8180, 974, 837), (8182, 969, 834), (8183, 8182, 837), (8184, 927, 768), (8186, 937, 768),
  (8188, 937, 837), (8602, 8592, 824), (8603, 8594, 824), (8622, 8596, 824), (8653, 8656, 824),
  (8654, 8660, 824), (8655, 8658, 824), (8708, 8707, 824), (8713, 8712, 824), (8716, 8715, 824),
  (8740, 8739, 824), (8742, 8741, 824), (8769, 8764, 824), (8772, 8771, 824), (8775, 8773, 824),
  (8777, 8776, 824), (8800, 61, 824), (8802, 8801, 824), (8813, 8781, 824), (8814, 60, 824),
  (8815, 62, 824), (8816, 8804, 824), (8817, 8805, 824), (8820, 8818, 824), (8821, 8819, 824),
  (8824, 8822, 824), (8825, 8823, 824), (8832, 8826, 824), (8833, 8827, 824), (8836, 8834, 824),
  (8837, 8835, 824), (8840, 8838, 824), (8841, 8839, 824), (8876, 8866, 824), (8877, 8872, 824),
  (8878, 8873, 824), (8879, 8875, 824), (8928, 8828, 824), (8929, 8829, 824), (8930, 8849, 824),
  (8931, 8850, 824), (8938, 8882, 824), (8939, 8883, 824), (8940, 8884, 824), (8941, 8885, 824),
  (12364, 12363, 12441), (12366, 12365, 12441), (12368, 12367, 12441), (12370, 12369, 12441),
  (12372, 12371, 12441), (12374, 12373, 12441), (12376, 12375, 12441), (12378, 12377, 12441),
  (12380, 12379, 12441), (12382, 12381, 12441), (12384, 12383, 12441), (12386, 12385, 12441),
  (12389, 12388, 12441), (12391, 12390, 12441), (12393, 12392, 12441), (12400, 12399, 12441),
  (12401, 12399, 12442), (12403, 12402, 12441), (12404, 12402, 12442), (12406, 12405, 12441),
  (12407, 12405, 12442), (12409, 12408, 12441), (12410, 12408, 12442), (12412, 12411, 12441),
  (12413, 12411, 12442), (12436, 12358, 12441), (12446, 12445, 12441), (12460, 12459, 12441),
  (12462, 12461, 12441), (12464, 12463, 12441), (12466, 12465, 12441), (12468, 12467, 12441),
  (12470, 12469, 12441), (12472, 12471, 12441), (12474, 12473, 12441), (12476, 12475, 12441),
  (12478, 12477, 12441), (12480, 12479, 12441), (12482, 12481, 12441), (12485, 12484, 12441)]

private def compositions8 : List (Nat × Nat × Nat) := [
  (12487, 12486, 12441), (12489, 12488, 12441), (12496, 12495, 12441), (12497, 12495, 12442),
  (12499, 12498, 12441), (12500, 12498, 12442), (12502, 12501, 12441), (12503, 12501, 12442),
  (12505, 12504, 12441), (12506, 12504, 12442), (12508, 12507, 12441), (12509, 12507, 12442),
  (12532, 12454, 12441), (12535, 12527, 12441), (12536, 12528, 12441), (12537, 12529, 12441),
  (12538, 12530, 12441), (12542, 12541, 12441), (69786, 69785, 69818), (69788, 69787, 69818),
  (69803, 69797, 69818), (69934, 69937, 69927), (69935, 69938, 69927), (70475, 70471, 70462),
  (70476, 70471, 70487), (70843, 70841, 70842), (70844, 70841, 70832), (70846, 70841, 70845),
  (71098, 71096, 71087), (71099, 71097, 71087), (71992, 71989, 71984)]

/-- A composed character and the two that it stands for. -/
def compositions : List (Nat × Nat × Nat) :=
  compositions1 ++ compositions2 ++ compositions3 ++ compositions4 ++ compositions5 ++
    compositions6 ++ compositions7 ++ compositions8

/-- First and last code points of the characters that other ones take the place of. -/
def uncomposedRanges : List (Nat × Nat) := [
  (832, 833), (835, 836), (884, 884), (894, 894), (903, 903), (2392, 2399), (2524, 2525), (2527,
  2527), (2611, 2611), (2614, 2614), (2649, 2651), (2654, 2654), (2908, 2909), (3907, 3907),
  (3917, 3917), (3922, 3922), (3927, 3927), (3932, 3932), (3945, 3945), (3955, 3955), (3957,
  3958), (3960, 3960), (3969, 3969), (3987, 3987), (3997, 3997), (4002, 4002), (4007, 4007),
  (4012, 4012), (4025, 4025), (8049, 8049), (8051, 8051), (8053, 8053), (8055, 8055), (8057,
  8057), (8059, 8059), (8061, 8061), (8123, 8123), (8126, 8126), (8137, 8137), (8139, 8139),
  (8147, 8147), (8155, 8155), (8163, 8163), (8171, 8171), (8174, 8175), (8185, 8185), (8187,
  8187), (8189, 8189), (8192, 8193), (8486, 8486), (8490, 8491), (9001, 9002), (10972, 10972),
  (63744, 64013), (64016, 64016), (64018, 64018), (64021, 64030), (64032, 64032), (64034,
  64034), (64037, 64038), (64042, 64109), (64112, 64217), (64285, 64285), (64287, 64287),
  (64298, 64310), (64312, 64316), (64318, 64318), (64320, 64321), (64323, 64324), (64326,
  64334), (119134, 119140), (119227, 119232), (194560, 195101)]

end TimeReports.Text
